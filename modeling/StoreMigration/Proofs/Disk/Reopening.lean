import StoreMigration.Proofs.Disk.Configuring
import StoreMigration.Proofs.Installation.Visits

/-! Using a file and finding it again. A file that was opened for writing and closed again has
nothing beside it that stands in the way of opening it once more (`settles_of_opened`), and as
no directory has come or gone its text leads where it led (`locate_eq_ok_iff`). -/

namespace StoreMigration

open Vicinity

namespace Path

theorem beside_inj (path : Path) {left right : String} :
    path.beside left = path.beside right ↔ left = right := by
  constructor
  · intro same
    have names : path.name ++ left = path.name ++ right := by
      rw [← name_beside, ← name_beside, same]
    exact (String.append_right_inj _).mp names
  · rintro rfl
    rfl

theorem beside_ne_nil (path : Path) (mark : String) : path.beside mark ≠ [] := by
  simp [beside]

/-- The name leaves room for the mark of a journal, which is the longest one. -/
def HasRoom (path : Path) : Prop :=
  path.name.utf8ByteSize + Disk.journalMark.utf8ByteSize ≤ Disk.longestName

instance (path : Path) : Decidable path.HasRoom := inferInstanceAs (Decidable (_ ≤ _))

end Path

namespace Companion

def TakesFile (companion : Companion) : Prop := companion ≠ directory ∧ companion ≠ unnameable

theorem takesFile_missing : TakesFile missing := ⟨nofun, nofun⟩

theorem takesFile_empty : TakesFile empty := ⟨nofun, nofun⟩

theorem takesFile_full : TakesFile full := ⟨nofun, nofun⟩

theorem ofNode_ne_unnameable (node : Option Node) : ofNode node ≠ unnameable := by
  rcases node with _ | _ | content | _
  · simp [ofNode]
  · simp [ofNode]
  · rw [ofNode]
    split <;> simp
  · simp [ofNode]

theorem ofNode_eq_directory_iff {node : Option Node} :
    ofNode node = directory ↔ node = some .directory := by
  rcases node with _ | _ | content | _
  · simp [ofNode]
  · simp [ofNode]
  · rw [ofNode]
    split <;> simp
  · simp [ofNode]

end Companion

structure Vicinity.TakesFiles (near : Vicinity) : Prop where
  journal : near.journal.TakesFile
  log : near.log.TakesFile
  index : near.index.TakesFile

namespace Disk

variable {disk : Disk} {text : String} {path place : Path} {mark other : String} {near : Vicinity}

/-! ## Beside a file -/

def marks : List String := [journalMark, logMark, indexMark, lockMark]

theorem companion_of_room (room : path.HasRoom) (known : mark ∈ marks) :
    disk.companion path mark = .ofNode (disk.node? (path.beside mark)) := by
  have shortest : ∀ mark ∈ marks, mark.utf8ByteSize ≤ journalMark.utf8ByteSize := by decide
  have fits : ¬ longestName < path.name.utf8ByteSize + mark.utf8ByteSize := by
    have short := shortest mark known
    have fits : path.name.utf8ByteSize + journalMark.utf8ByteSize ≤ longestName := room
    omega
  rw [companion, if_neg fits]

theorem companion_ne_unnameable (room : path.HasRoom) (known : mark ∈ marks) :
    disk.companion path mark ≠ .unnameable := by
  rw [companion_of_room room known]
  exact Companion.ofNode_ne_unnameable _

theorem isDirectory_of_other (other : disk.node? place ≠ some .directory) :
    disk.isDirectory place = false := by
  rw [isDirectory]
  split
  · next there => exact absurd there other
  · rfl

theorem isDirectory_beside (room : path.HasRoom) (known : mark ∈ marks)
    (noDirectory : disk.companion path mark ≠ .directory) :
    disk.isDirectory (path.beside mark) = false := by
  rw [companion_of_room room known, Ne, Companion.ofNode_eq_directory_iff] at noDirectory
  exact isDirectory_of_other noDirectory

theorem node?_erase_self (disk : Disk) (inner : path ≠ []) : (disk.erase path).node? path = none := by
  rw [node?, if_neg inner, erase]
  induction disk.nodes with
  | nil => rfl
  | cons head rest induction =>
      by_cases own : head.1 = path
      · rw [List.filter_cons_of_neg (by simp [own]), induction]
      · rw [List.filter_cons_of_pos (by simp [own]), List.lookup_cons, beq_false_of_ne (Ne.symm own),
          induction]

theorem companion_putCompanion_self {after : Companion} (room : path.HasRoom)
    (known : mark ∈ marks) (real : after ≠ .unnameable) :
    (disk.putCompanion path mark after).companion path mark = after := by
  have inner := path.beside_ne_nil mark
  rw [putCompanion]
  split
  · next same => exact same
  · rw [companion_of_room room known]
    cases after with
    | missing => simp only [node?_erase_self disk inner, Companion.ofNode]
    | empty =>
        simp only [node?_put_self disk _ inner]
        rfl
    | full | directory => simp only [node?_put_self disk _ inner, Companion.ofNode]
    | unnameable => exact absurd rfl real

theorem companion_putCompanion_of_ne {after : Companion} (apart : other ≠ mark) :
    (disk.putCompanion path mark after).companion path other = disk.companion path other :=
  companion_congr (node?_putCompanion fun same => absurd (path.beside_inj.mp same) apart)

theorem stored_restore (disk : Disk) {content : Database} (inner : path ≠ [])
    (shown : near.content = some content) :
    (disk.restore path near).node? path = some (.database content) := by
  rw [node?_restore_self disk near inner, shown]

theorem vicinity_restore (disk : Disk) {content : Database} (inner : path ≠ [])
    (room : path.HasRoom) (shown : near.content = some content) (takes : near.TakesFiles)
    (lock : near.lock ≠ .unnameable) :
    (disk.restore path near).vicinity path =
      { near with isLogged := false, isLocked := false } := by
  have written := stored_restore disk inner shown
  have journal : (disk.restore path near).companion path journalMark = near.journal := by
    rw [restore, companion_putCompanion_of_ne (by decide), companion_putCompanion_of_ne (by decide),
      companion_putCompanion_of_ne (by decide)]
    exact companion_putCompanion_self room (by decide) takes.journal.2
  have log : (disk.restore path near).companion path logMark = near.log := by
    rw [restore, companion_putCompanion_of_ne (by decide), companion_putCompanion_of_ne (by decide)]
    exact companion_putCompanion_self room (by decide) takes.log.2
  have index : (disk.restore path near).companion path indexMark = near.index := by
    rw [restore, companion_putCompanion_of_ne (by decide)]
    exact companion_putCompanion_self room (by decide) takes.index.2
  have lock : (disk.restore path near).companion path lockMark = near.lock :=
    companion_putCompanion_self room (by decide) lock
  rw [vicinity, written, journal, log, index, lock, shown]

theorem release_restore (disk : Disk) {content : Database} (terms : Terms) (inner : path ≠ [])
    (room : path.HasRoom) (shown : near.content = some content) (takes : near.TakesFiles)
    (lock : near.lock ≠ .unnameable) :
    (disk.restore path near).release path terms near.isLogged near.isLocked =
      (disk.restore path near).restore path (near.close terms) := by
  have written := stored_restore disk inner shown
  rw [release, written, vicinity_restore disk inner room shown takes lock]
  rfl

/-- Files come and go beside a file that is written back, but no directories. -/
theorem isDirectory_restore {content : Database} (inner : path ≠ []) (room : path.HasRoom)
    (shown : near.content = some content) (noDirectory : disk.node? path ≠ some .directory)
    (took : (disk.vicinity path).TakesFiles) (takes : near.TakesFiles)
    (lock : near.lock = disk.companion path lockMark) (place : Path) :
    (disk.restore path near).isDirectory place = disk.isDirectory place := by
  have nameable : near.lock ≠ .unnameable := lock ▸ companion_ne_unnameable room (by decide)
  have found := vicinity_restore disk inner room shown takes nameable
  have sameBeside : ∀ mark ∈ marks, disk.companion path mark ≠ .directory →
      (disk.restore path near).companion path mark ≠ .directory → place = path.beside mark →
        (disk.restore path near).isDirectory place = disk.isDirectory place := by
    rintro mark known before after rfl
    rw [isDirectory_beside room known before, isDirectory_beside room known after]
  by_cases own : place = path
  · subst own
    have written := stored_restore disk inner shown
    rw [isDirectory_of_other noDirectory, isDirectory_of_other (by simp [written])]
  by_cases ownJournal : place = path.beside journalMark
  · exact sameBeside journalMark (by decide) took.journal.1
      (fun there => takes.journal.1 ((congrArg Vicinity.journal found).symm.trans there)) ownJournal
  by_cases ownLog : place = path.beside logMark
  · exact sameBeside logMark (by decide) took.log.1
      (fun there => takes.log.1 ((congrArg Vicinity.log found).symm.trans there)) ownLog
  by_cases ownIndex : place = path.beside indexMark
  · exact sameBeside indexMark (by decide) took.index.1
      (fun there => takes.index.1 ((congrArg Vicinity.index found).symm.trans there)) ownIndex
  rw [isDirectory, isDirectory,
    node?_restore_of_ne disk own ownJournal ownLog ownIndex fun _ => lock.symm]

theorem settle_eq {terms : Terms} {site : Site} {content left : Database}
    (placed : disk.placeOf text = .ok (.file path terms))
    (went : (disk.vicinity path).perform (configure terms) = (.ok content, near))
    (opened : site.isOpened = true) (ground : site.ground = .database left) :
    disk.settle text site = (disk.restore path (near.keep left)).release path terms
      (near.keep left).isLogged (near.keep left).isLocked := by
  simp only [settle, occupy, opened, placed, went, ground]

/-! ## Opening again -/

/-- Between two uses a file has a database, nothing stands in the way of opening it again, and
no directory comes or goes. -/
structure Settles (before after : Disk) (path : Path) (left : Database) : Prop where
  home : after.home = before.home
  stored : after.node? path = some (.database left)
  clear : (after.vicinity path).Clear
  directories : ∀ place, after.isDirectory place = before.isDirectory place

theorem Settles.trans {before between after : Disk} {first second : Database}
    (once : before.Settles between path first) (again : between.Settles after path second) :
    before.Settles after path second where
  home := again.home.trans once.home
  stored := again.stored
  clear := again.clear
  directories place := (again.directories place).trans (once.directories place)

theorem settles_of_restored {used closed : Vicinity} {left : Database}
    (opens : disk.Opens text path) (room : path.HasRoom) (took : (disk.vicinity path).TakesFiles)
    (uses : used.TakesFiles) (closes : closed.TakesFiles) (clear : closed.Clear)
    (left_used : used.content = some left) (left_closed : closed.content = some left)
    (lock : used.lock = disk.companion path lockMark) (sameLock : closed.lock = used.lock) :
    disk.Settles ((disk.restore path used).restore path closed) path left := by
  have named : used.lock ≠ .unnameable := lock ▸ companion_ne_unnameable room (by decide)
  have first := vicinity_restore disk opens.inner room left_used uses named
  have second := vicinity_restore (disk.restore path used) opens.inner room left_closed closes
    (sameLock ▸ named)
  have usedThere := stored_restore disk opens.inner left_used
  have closedThere := stored_restore (disk.restore path used) opens.inner left_closed
  constructor
  · rw [home_restore, home_restore]
  · exact closedThere
  · rw [second]
    exact ⟨clear.journal, clear.log, clear.index, rfl⟩
  · intro place
    have usedTakes : ((disk.restore path used).vicinity path).TakesFiles := by
      rw [first]
      exact ⟨uses.journal, uses.log, uses.index⟩
    have foundLock : closed.lock = (disk.restore path used).companion path lockMark :=
      sameLock.trans (congrArg Vicinity.lock first).symm
    rw [isDirectory_restore opens.inner room left_closed (by simp [usedThere]) usedTakes closes
      foundLock, isDirectory_restore opens.inner room left_used opens.noDirectory took uses lock]

theorem settles_of_opened {site : Site} {content left : Database}
    (placed : disk.placeOf text = .ok (.file path .usual)) (room : path.HasRoom)
    (went : (disk.vicinity path).perform (configure .usual) = (.ok content, near))
    (free : near.refusal .usual = none) (opened : site.isOpened = true)
    (ground : site.ground = .database left) : disk.Settles (disk.settle text site) path left := by
  have opens := opens_of_placeOf placed
  have nameable : ∀ mark ∈ marks, disk.companion path mark ≠ .unnameable :=
    fun mark known => companion_ne_unnameable room known
  have named := nameable journalMark (by decide)
  have beside := opened_of_ok rfl went
  have took : (disk.vicinity path).TakesFiles :=
    ⟨⟨beside.free.1, named⟩, ⟨beside.free.2, nameable logMark (by decide)⟩,
      ⟨(index_of_unrefused beside free).1, nameable indexMark (by decide)⟩⟩
  have journal : near.journal.TakesFile := by
    rcases beside.journal with missing | empty | ⟨_, unnameable⟩
    · exact missing ▸ Companion.takesFile_missing
    · exact empty ▸ Companion.takesFile_empty
    · exact absurd unnameable named
  have clear := clear_of_closed beside free rfl named left
  have closed := close_of_opened beside free rfl left
  rcases keep_of_opened beside free rfl left with ⟨log, inUse, kept⟩
  have logged : log.TakesFile := by
    rcases inUse with rfl | rfl
    · exact Companion.takesFile_empty
    · exact Companion.takesFile_full
  have shown : (near.keep left).content = some left := congrArg Vicinity.content kept
  have lock : (near.keep left).lock = disk.companion path lockMark := congrArg Vicinity.lock kept
  have uses : (near.keep left).TakesFiles := by
    rw [kept]
    exact ⟨journal, logged, Companion.takesFile_full⟩
  have closes : ((near.keep left).close .usual).TakesFiles := by
    rw [closed]
    exact ⟨journal, Companion.takesFile_missing, Companion.takesFile_missing⟩
  rw [settle_eq placed went opened ground,
    release_restore disk .usual opens.inner room shown uses (lock ▸ nameable lockMark (by decide))]
  exact settles_of_restored opens room took uses closes clear shown
    (congrArg Vicinity.content closed) lock ((congrArg Vicinity.lock closed).trans lock.symm)

/-! ## The way to a file -/

section Ways

variable {before after : Disk} {part : String} {parts : List String} {next last reached : Path}

theorem enter_eq_ok_iff : disk.enter place part = .ok next ↔
    disk.isDirectory place = true ∧ '\x00' ∉ part.toList ∧ part.utf8ByteSize ≤ longestName ∧
      place.follow part = next := by
  rw [enter, isDirectory]
  rcases disk.node? place with _ | _ | content | _
  · simp
  · by_cases zero : '\x00' ∈ part.toList
    · simp [zero]
    · by_cases long : longestName < part.utf8ByteSize
      · simp [zero, long, Nat.not_le.mpr long]
      · simp [zero, long, Nat.not_lt.mp long]
  · simp
  · simp

theorem follow_cons_eq_ok_iff : disk.follow place (part :: parts) = .ok last ↔
    ∃ next, disk.enter place part = .ok next ∧ disk.follow next parts = .ok last := by
  rw [follow, List.foldlM_cons]
  cases disk.enter place part with
  | error obstacle => simp [bind, Except.bind]
  | ok next => simp [bind, Except.bind, follow]

/-- Whether a way leads somewhere is a matter of directories alone. -/
theorem follow_eq_ok_iff (directories : ∀ place, after.isDirectory place = before.isDirectory place) :
    after.follow place parts = .ok last ↔ before.follow place parts = .ok last := by
  induction parts generalizing place with
  | nil => rfl
  | cons part parts induction =>
      simp only [follow_cons_eq_ok_iff, enter_eq_ok_iff, directories, induction]

theorem locate_eq_ok_iff (home : after.home = before.home)
    (directories : ∀ place, after.isDirectory place = before.isDirectory place) :
    after.locate text = .ok place ↔ before.locate text = .ok place := by
  rw [locate, locate, home]
  split
  · simp
  · exact follow_eq_ok_iff directories

theorem shortenPart_again (once : before.shortenPart place part = some next)
    (entered : after.enter place part = .ok reached) : after.shortenPart place part = some next := by
  rw [shortenPart] at once ⊢
  split
  · next stays => rwa [if_pos stays] at once
  · next moves =>
      rw [if_neg moves] at once
      split
      · next long =>
          rw [if_pos long] at once
          cases once
      · next short =>
          rw [if_neg short] at once
          rw [entered]
          split at once
          · exact once
          · exact once
          · cases once

theorem follow_of_shortenPart (once : disk.shortenPart place part = some next) :
    next = place.follow part := by
  have shortened : disk.shortenParts place [part] = some next := by
    rw [shortenParts, List.foldlM_cons, once]
    rfl
  exact shortenParts_eq_foldl shortened

theorem shortenParts_again (shortened : before.shortenParts place parts = some last)
    (followed : after.follow place parts = .ok reached) :
    after.shortenParts place parts = some last := by
  induction parts generalizing place with
  | nil => exact shortened
  | cons part parts induction =>
      rw [shortenParts, List.foldlM_cons] at shortened ⊢
      rcases Option.bind_eq_some_iff.mp shortened with ⟨next, once, further⟩
      rcases follow_cons_eq_ok_iff.mp followed with ⟨entered, enters, follows⟩
      have same : entered = next := by
        rw [enter_eq_follow enters, follow_of_shortenPart once]
      subst same
      rw [shortenPart_again once enters]
      exact induction further follows

theorem shorten_again (home : after.home = before.home)
    (shortened : before.shorten text = some path) (located : after.locate text = .ok place) :
    after.shorten text = some path := by
  rcases Option.bind_eq_some_iff.mp shortened with ⟨found, shortens, fits⟩
  rw [locate] at located
  split at located
  · cases located
  · have again := shortenParts_again (home ▸ shortens) located
    exact Option.bind_eq_some_iff.mpr ⟨found, again, fits⟩

end Ways

/-! ## Finding a database again -/

/-- The text leads to something, and a database is opened by it that does not refuse to have
its bucket made sure of. -/
structure Reopens (disk : Disk) (text : String) : Prop where
  present : (disk.site text).isPresent = true
  found : ∃ content, (disk.site text).ground = .database content
  granted : (disk.site text).refusal ≠ some .writes

end Disk

/-- The text is just a path, and the file there is used on the usual terms. -/
def Address.IsPlain (text : String) : Prop := Address.read text = .ok (.file text .usual none)

namespace Disk

variable {before after : Disk} {text : String} {path place : Path} {content left : Database}

theorem configured_of_ground {disk : Disk} {terms : Terms}
    (placed : disk.placeOf text = .ok (.file path terms))
    (ground : (disk.site text).ground = .database content) :
    ∃ near, (disk.vicinity path).perform (configure terms) = (.ok content, near) ∧
      (disk.site text).refusal = near.refusal terms := by
  rw [site_of_placeOf placed, siteAt] at ground ⊢
  rcases went : (disk.vicinity path).perform (configure terms) with ⟨outcome, near⟩
  rw [went] at ground
  cases outcome with
  | error error => cases ground
  | ok shown =>
      cases ground
      exact ⟨near, rfl, rfl⟩

theorem ground_of_configured {disk : Disk} {terms : Terms} {near : Vicinity}
    (placed : disk.placeOf text = .ok (.file path terms))
    (went : (disk.vicinity path).perform (configure terms) = (.ok content, near)) :
    (disk.site text).ground = .database content ∧
      (disk.site text).refusal = near.refusal terms := by
  rw [site_of_placeOf placed, siteAt, went]
  exact ⟨rfl, rfl⟩

theorem placeOf_of_plain (disk : Disk) (plain : Address.IsPlain text) :
    disk.placeOf text =
      match disk.shorten text with
      | none => .error .cannotOpen
      | some path => disk.fileAt path .usual := by
  have read : Address.read text = .ok (.file text .usual none) := plain
  rw [placeOf, read]
  rfl

theorem terms_of_plain {disk : Disk} {terms : Terms} (plain : Address.IsPlain text)
    (placed : disk.placeOf text = .ok (.file path terms)) : terms = .usual := by
  rw [placeOf_of_plain disk plain] at placed
  split at placed
  · cases placed
  · cases (file_of_fileAt placed).1
    rfl

theorem placeOf_again (plain : Address.IsPlain text) (home : after.home = before.home)
    (placed : before.placeOf text = .ok (.file path .usual))
    (located : after.locate text = .ok place)
    (stored : after.node? path = some (.database left)) :
    after.placeOf text = .ok (.file path .usual) := by
  rw [placeOf_of_plain _ plain] at placed ⊢
  split at placed
  · cases placed
  · next shortened =>
      cases (file_of_fileAt placed).1
      rw [shorten_again home shortened located]
      simp only [fileAt, stored]

theorem lookUp_of_located (plain : Address.IsPlain text)
    (opens : Address.target? text after.home = some path) (located : after.locate text = .ok place)
    (stored : after.node? path = some (.database left)) :
    after.lookUp text = some (.database left) := by
  have read : Address.read text = .ok (.file text .usual none) := plain
  have leads : after.locate text = .ok path := by
    rw [Address.target?, read] at opens
    cases opens
    rw [located]
    rw [locate] at located
    split at located
    · cases located
    · rw [follow_eq_foldl located]
      rfl
  rw [lookUp, leads]
  exact stored

theorem reopens_of_settles (plain : Address.IsPlain text)
    (placed : before.placeOf text = .ok (.file path .usual))
    (settles : before.Settles after path left) (located : after.locate text = .ok place) :
    after.placeOf text = .ok (.file path .usual) ∧ after.Reopens text ∧
      (after.site text).refusal = none := by
  have opens : Address.target? text after.home = some path := by
    rw [settles.home]
    exact (opens_of_placeOf placed).target
  have again := placeOf_again plain settles.home placed located settles.stored
  have shown : (after.vicinity path).content = some left := by rw [vicinity, settles.stored]
  rcases configure_of_clear settles.clear shown with ⟨near, went, free⟩
  rcases ground_of_configured again went with ⟨ground, refusal⟩
  refine ⟨again, ⟨?_, ⟨_, ground⟩, ?_⟩, refusal.trans free⟩
  · rw [isPresent_site, lookUp_of_located plain opens located settles.stored]
    rfl
  · rw [refusal, free]
    exact (Option.some_ne_none _).symm

end Disk

/-! ## Databases that are up to date -/

structure Database.UpToDate (database : Database) : Prop where
  layout : database.currentLayout = Database.latestLayout
  tables : database.tables.isSome = true

theorem Vicinity.lasting_upToDate :
    Lasting (fun near => ∀ content, near.content = some content → content.UpToDate)
      Database.UpToDate where
  beside content _ _ holds := by rwa [content]
  lock _ holds := holds
  found there holds := holds _ there
  journaled _ fits := ⟨fits.layout, fits.tables⟩
  replaced fits _ := by
    rintro _ ⟨⟩
    exact fits

namespace Disk

variable {disk : Disk} {text : String} {path : Path} {terms : Terms} {content : Database}

def Current (disk : Disk) (text : String) : Prop :=
  ∃ path content, Address.target? text disk.home = some path ∧
    disk.node? path = some (.database content) ∧ content.UpToDate

theorem configured_of_current (current : disk.Current text)
    (placed : disk.placeOf text = .ok (.file path terms)) :
    (∃ content, disk.node? path = some (.database content) ∧ content.UpToDate) ∧
      Handling.Ends (fun near => ∀ content, near.content = some content → content.UpToDate)
        Database.UpToDate ((disk.vicinity path).perform (configure terms)) := by
  rcases current with ⟨named, content, target, stored, upToDate⟩
  cases target.symm.trans (opens_of_placeOf placed).target
  refine ⟨⟨content, stored, upToDate⟩, keeps_configure lasting_upToDate terms _ ?_⟩
  intro shown there
  rw [vicinity, stored] at there
  cases there
  exact upToDate

theorem placed_of_ground (ground : (disk.site text).ground = .database content) :
    ∃ path terms, disk.placeOf text = .ok (.file path terms) := by
  rcases disk.placed_or_nowhere text with placed | nowhere
  · exact placed
  · rw [site] at ground
    split at ground
    · cases ground
    · cases ground
    · next placed => exact absurd placed (nowhere _ _)

theorem upToDate_of_ground (current : disk.Current text)
    (ground : (disk.site text).ground = .database content) : content.UpToDate := by
  rcases placed_of_ground ground with ⟨path, terms, placed⟩
  rcases configured_of_ground placed ground with ⟨near, went, _⟩
  have shown := (configured_of_current current placed).2.answered content
  rw [went] at shown
  exact shown rfl

theorem stored_settle {site : Site} (placed : disk.placeOf text = .ok (.file path terms))
    (opened : site.isOpened = true) : ∃ near : Vicinity,
      (disk.settle text site).node? path =
        (near.content.map Node.database).or (disk.node? path) ∧
      ((∃ left, site.ground = .database left ∧ near.content = some left) ∨
        (∀ left, site.ground ≠ .database left) ∧
          near = ((disk.vicinity path).perform (configure terms)).2) := by
  have opens := opens_of_placeOf placed
  rcases occupied_of_file placed opened with ⟨near, isLogged, isLocked, occupied, used⟩
  have settled : disk.settle text site =
      (disk.restore path near).release path terms isLogged isLocked := by
    rw [settle, occupied]
  refine ⟨near, ?_, used⟩
  rw [settled, node?_release _ _ _ _ opens.inner, node?_restore_self disk near opens.inner]
  cases near.content <;> rfl

theorem current_of_left {site : Site} {left : Database}
    (placed : disk.placeOf text = .ok (.file path terms)) (opened : site.isOpened = true)
    (ground : site.ground = .database left) (upToDate : left.UpToDate) :
    (disk.settle text site).Current text := by
  rcases stored_settle placed opened with ⟨near, stored, ⟨found, groundToo, shown⟩ | ⟨nothing, _⟩⟩
  · cases groundToo.symm.trans ground
    rw [shown] at stored
    refine ⟨path, left, ?_, stored, upToDate⟩
    rw [home_settle]
    exact (opens_of_placeOf placed).target
  · exact absurd ground (nothing left)

theorem current_settle {site : Site} (current : disk.Current text)
    (upToDate : ∀ left, site.ground = .database left → left.UpToDate) :
    (disk.settle text site).Current text := by
  cases opened : site.isOpened with
  | false => rwa [settle_of_unopened opened]
  | true =>
      rcases disk.placed_or_nowhere text with ⟨path, terms, placed⟩ | nowhere
      · rcases configured_of_current current placed with ⟨⟨found, foundThere, foundUpToDate⟩, configured⟩
        rcases stored_settle placed opened with ⟨near, stored, ⟨left, ground, _⟩ | ⟨_, rfl⟩⟩
        · exact current_of_left placed opened ground (upToDate left ground)
        · have named : Address.target? text (disk.settle text site).home = some path := by
            rw [home_settle]
            exact (opens_of_placeOf placed).target
          rw [foundThere] at stored
          cases shown : ((disk.vicinity path).perform (configure terms)).2.content with
          | some content =>
              rw [shown] at stored
              exact ⟨path, content, named, stored, configured.left content shown⟩
          | none =>
              rw [shown] at stored
              exact ⟨path, found, named, stored, foundUpToDate⟩
      · rwa [settle_of_nowhere nowhere]

end Disk

end StoreMigration
