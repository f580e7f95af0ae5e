import StoreMigration.Proofs.Disk.Stored

/-! What operations on an installation leave of what is stored under its path. An operation
looks aside, fails to open the database, or uses what it opened; whatever holds of the objects
before and after that use holds of what is stored before and after the visit (`fits_visit`).
A backup leaves the objects as they are, unless the engine takes the database itself for a
file that belongs to the backup (`texts_backup`). -/

namespace StoreMigration

/-! ## Opening keeps the objects -/

theorem Database.texts_of_migrated {content opened : Database}
    (migrated : content.migrateLayout = .ok opened) : opened.texts = content.texts := by
  rw [migrateLayout] at migrated
  split at migrated
  · cases migrated
  · split at migrated
    · cases migrated
      rfl
    · cases migrated
      rfl

namespace Installation

theorem texts_of_opened {refusal : Option Database.Refusal} {content opened : Database}
    (opens : openDatabase refusal content = .ok opened) : opened.texts = content.texts := by
  cases migrated : content.migrateLayout with
  | error unsupported =>
      simp only [openDatabase, migrated] at opens
      split at opens <;> cases opens
  | ok brought =>
      have same := Database.texts_of_migrated migrated
      simp only [openDatabase, migrated] at opens
      split at opens
      · cases opens
      · split at opens
        · cases opens
          exact same
        · split at opens
          · cases opens
            rfl
          · cases opens

/-- What an operation on a site amounts to, where `fits` is what it may make of the objects. -/
inductive Leads (installation : Installation)
    (fits : Objects String → Except Failure α → Objects String → Prop) (site : Site) :
    Except Failure α × Site → Prop
  | aside {result : Except Failure α} (still : ∀ objects, fits objects result objects) :
      Leads installation fits site (result, site)
  | unopened {failure : Failure} (still : ∀ objects, fits objects (.error failure) objects) :
      Leads installation fits site (.error failure, site.visited)
  | used {opened left : Database} {result : Except Failure α}
      (opens : installation.openSite site = .ok opened)
      (did : fits opened.texts result left.texts) :
      Leads installation fits site (result, site.leave left)

section Leads

variable {installation : Installation} {site : Site} {action : Action Failure α}
  {fits : Objects String → Except Failure α → Objects String → Prop}

theorem leads_perform (still : ∀ failure objects, fits objects (.error failure) objects)
    (did : ∀ {opened left result}, action.run site.backend opened = (result, left) →
      fits opened.texts result left.texts) :
    installation.Leads fits site (installation.perform action site) := by
  rw [perform, visit]
  cases opens : installation.openSite site with
  | error failure => exact .unopened (still failure)
  | ok opened => exact .used opens (did rfl)

theorem leads_ask (still : ∀ failure objects, fits objects (.error failure) objects)
    (did : ∀ {opened left result}, action.run site.backend opened = (result, left) →
      fits opened.texts result left.texts) :
    installation.Leads fits site (installation.ask action site) := by
  rw [ask]
  split
  · exact leads_perform still did
  · exact .aside (still _)

theorem leads_status {fits : Objects String → Except Failure StatusReport → Objects String → Prop}
    {target : String} (still : ∀ result objects, fits objects result objects)
    (did : ∀ {opened left surveyed result},
      (installation.survey target).run site.backend opened = (surveyed, left) →
        fits opened.texts result left.texts) :
    installation.Leads fits site (installation.status target site) := by
  rw [status]
  split
  · rw [visit]
    cases opens : installation.openSite site with
    | error failure => exact .unopened (still _)
    | ok opened => exact .used opens (did rfl)
  · exact .aside (still _)

end Leads

end Installation

namespace Disk

variable {disk : Disk} {text : String} {path : Path} {terms : Terms}

theorem isOpened_site (disk : Disk) (text : String) : (disk.site text).isOpened = false := by
  rw [site]
  split <;> rfl

theorem isPresent_site (disk : Disk) (text : String) :
    (disk.site text).isPresent = (disk.lookUp text).isSome := by
  rw [site]
  split <;> rfl

theorem settle_of_unopened {site : Site} (unopened : site.isOpened = false) :
    disk.settle text site = disk := by
  rw [settle, occupy_of_unopened unopened]
  rfl

theorem settle_of_nowhere {site : Site}
    (nowhere : ∀ path terms, disk.placeOf text ≠ .ok (.file path terms)) :
    disk.settle text site = disk := by
  rw [settle, occupy_of_nowhere nowhere]
  rfl

theorem target_of_transient {isReadOnly : Bool} {commonName : Option String}
    (placed : disk.placeOf text = .ok (.transient isReadOnly commonName)) :
    Address.target? text disk.home = none := by
  rw [placeOf] at placed
  split at placed
  · cases placed
  · next read => rw [Address.target?, read]
  · next read => rw [Address.target?, read]
  · split at placed
    · cases placed
    · split at placed
      · cases placed
      · cases (file_of_fileAt placed).1

theorem placed_or_nowhere (disk : Disk) (text : String) :
    (∃ path terms, disk.placeOf text = .ok (.file path terms)) ∨
      ∀ path terms, disk.placeOf text ≠ .ok (.file path terms) := by
  rw [or_iff_not_imp_left]
  exact fun nowhere path terms placed => nowhere ⟨path, terms, placed⟩

theorem texts_of_visited (disk : Disk) (text : String) :
    (disk.settle text (disk.site text).visited).texts text = disk.texts text := by
  rcases disk.placed_or_nowhere text with ⟨path, terms, placed⟩ | nowhere
  · rw [texts_settle placed rfl, Site.texts?, Site.visited]
    cases ground : (disk.site text).ground with
    | database content =>
        rw [texts_of_opens (opens_of_placeOf placed), ← texts_of_ground placed ground]
        rfl
    | transient | closed error | unusable error => rfl
  · rw [settle_of_nowhere nowhere]

@[simp] theorem home_settle (disk : Disk) (text : String) (site : Site) :
    (disk.settle text site).home = disk.home := by
  rcases disk.placed_or_nowhere text with ⟨path, terms, placed⟩ | nowhere
  · cases opened : site.isOpened with
    | false => rw [settle_of_unopened opened]
    | true =>
        rcases occupy_of_file placed opened with ⟨near, _, _, occupied, _⟩
        rw [settle, occupied, home_release, home_restore]
  · rw [settle_of_nowhere nowhere]

variable {installation : Installation}
  {fits : Objects String → Except Failure α → Objects String → Prop}

theorem ground_of_opened {opened : Database}
    (placed : disk.placeOf installation.path = .ok (.file path terms))
    (opens : installation.openSite (disk.site installation.path) = .ok opened) :
    ∃ content, (disk.site installation.path).ground = .database content ∧
      opened.texts = content.texts := by
  rw [Installation.openSite] at opens
  split at opens
  · cases opens
  · cases opens
  · next ground =>
      rw [site_of_placeOf placed, siteAt] at ground
      simp only at ground
      split at ground <;> cases ground
  · next content ground => exact ⟨content, ground, Installation.texts_of_opened opens⟩

/-- What was opened is in memory, and is forgotten, or it is what is stored, and what is left of
it is kept. -/
theorem opened_cases {opened : Database}
    (opens : installation.openSite (disk.site installation.path) = .ok opened) :
    (opened.texts = Objects.none ∧ Address.target? installation.path disk.home = none ∧
        ∀ left, (disk.site installation.path).leave left = disk.site installation.path) ∨
      ∃ path terms, disk.placeOf installation.path = .ok (.file path terms) ∧
        opened.texts = disk.texts installation.path ∧
        ∀ left, ((disk.site installation.path).leave left).isOpened = true ∧
          ((disk.site installation.path).leave left).ground = .database left := by
  cases placed : disk.placeOf installation.path with
  | error error =>
      rw [Installation.openSite, site, placed] at opens
      cases opens
  | ok place =>
      cases place with
      | transient isReadOnly commonName =>
          have ground : (disk.site installation.path).ground = .transient := by
            rw [site, placed]
            rfl
          rw [Installation.openSite, ground] at opens
          refine .inl ⟨Installation.texts_of_opened opens, target_of_transient placed, ?_⟩
          intro left
          rw [Site.leave, ground]
      | file path terms =>
          rcases ground_of_opened placed opens with ⟨content, ground, same⟩
          refine .inr ⟨path, terms, rfl, ?_, ?_⟩
          · rw [same, texts_of_ground placed ground, texts_of_opens (opens_of_placeOf placed)]
          · intro left
            rw [Site.leave, ground]
            exact ⟨rfl, rfl⟩

/-- What an operation makes of the objects that it finds it makes of those that are stored. What
is done to a database in memory leaves nothing. -/
theorem fits_visit {use : Site → Except Failure α × Site}
    (leads : ∀ site, installation.Leads fits site (use site))
    (vanishes : ∀ result left, fits Objects.none result left →
      fits Objects.none result Objects.none) :
    fits (disk.texts installation.path) (disk.visit installation.path use).1
      ((disk.visit installation.path use).2.texts installation.path) := by
  show fits _ (use _).1 ((disk.settle _ (use _).2).texts _)
  have led := leads (disk.site installation.path)
  generalize use (disk.site installation.path) = ended at led
  cases led with
  | aside still =>
      rw [settle_of_unopened (isOpened_site disk _)]
      exact still _
  | unopened still =>
      rw [texts_of_visited]
      exact still _
  | @used opened left result opens did =>
      rcases opened_cases opens with ⟨blank, nowhere, same⟩ | ⟨path, terms, placed, stored, leaves⟩
      · rw [same, settle_of_unopened (isOpened_site disk _), texts_of_nowhere nowhere]
        rw [blank] at did
        exact vanishes result _ did
      · rw [texts_settle placed (leaves left).1, Site.texts?_of_ground (leaves left).2, ← stored]
        exact did

/-! ## Backups -/

def Holds (disk : Disk) (path : Path) (objects : Objects String) : Prop :=
  ∃ content, disk.node? path = some (.database content) ∧ content.texts = objects

theorem textsAt_of_holds {objects : Objects String} (holds : disk.Holds path objects) :
    disk.textsAt path = objects := by
  rcases holds with ⟨content, found, rfl⟩
  exact textsAt_of_found found

theorem Holds.congr {objects : Objects String} {other : Disk} (holds : disk.Holds path objects)
    (same : other.node? path = disk.node? path) : other.Holds path objects := by
  rcases holds with ⟨content, found, shown⟩
  exact ⟨content, same.trans found, shown⟩

def ownMarks : List String := [journalMark, logMark, indexMark]

/-- The path is one at which the engine keeps something beside the file that a text names. -/
def HasBeside (text : String) (home path : Path) : Prop :=
  ∃ file, Address.target? text home = some file ∧ ∃ mark ∈ ownMarks, path = file.beside mark

instance (text : String) (home path : Path) : Decidable (HasBeside text home path) :=
  inferInstanceAs (Decidable (∃ file ∈ Address.target? text home, ∃ mark ∈ ownMarks,
    path = file.beside mark))

theorem texts?_of_closed (near : Vicinity) (terms : Terms) (isInUse : Bool) :
    (if isInUse then near.leave else near.close terms).texts? = near.texts? := by
  cases isInUse <;> rfl

theorem lock_of_closed {near : Vicinity} (terms : Terms) (isInUse : Bool)
    (unlocked : near.isLocked = false) :
    (if isInUse then near.leave else near.close terms).lock = near.lock := by
  cases isInUse <;> simp [Vicinity.close, Vicinity.leave, unlocked]

theorem companion_of_holds {objects : Objects String} {mark : String}
    (holds : disk.Holds (path.beside mark) objects) : disk.companion path mark ≠ .missing := by
  rcases holds with ⟨content, found, _⟩
  rw [companion, found]
  split
  · decide
  · rw [Companion.ofNode]
    split <;> decide

/-- A copy of a database leaves the database itself as it is, even where it is copied to
itself. -/
theorem holds_copyToFile {content : Database} {file : Path} (terms : Terms) (isInUse : Bool)
    (holds : disk.Holds path content.texts) (inner : path ≠ [])
    (apart : ¬ ∃ mark ∈ ownMarks, path = file.beside mark) :
    (disk.copyToFile file terms isInUse content).2.Holds path content.texts := by
  have copied : (disk.copyToFile file terms isInUse content).2 = disk.restore file
      (let near := ((disk.vicinity file).perform (Vicinity.overwrite terms content)).2
      if isInUse then near.leave else near.close terms) := rfl
  rw [copied]
  by_cases same : path = file
  · subst same
    have shown : (disk.vicinity path).texts? = some content.texts := by
      rcases holds with ⟨there, found, same⟩
      simp only [Vicinity.texts?, vicinity, found, Option.map_some, same]
    have left := (Vicinity.keeps_overwrite (Vicinity.lasting_texts (some content.texts)) terms rfl
      _ shown).left
    rw [← texts?_of_closed _ terms isInUse] at left
    rcases Option.map_eq_some_iff.mp left with ⟨there, kept, sameTexts⟩
    refine ⟨there, ?_, sameTexts⟩
    rw [node?_restore_self _ _ inner, kept]
  · have elsewhere : ∀ mark ∈ ownMarks, path ≠ file.beside mark :=
      fun mark member own => apart ⟨mark, member, own⟩
    refine holds.congr (node?_restore_of_ne disk same (elsewhere _ (by decide))
      (elsewhere _ (by decide)) (elsewhere _ (by decide)) ?_)
    intro besideLock
    have held := companion_of_holds (besideLock ▸ holds)
    have handled : Handling.Ends
        (fun near => near.lock = disk.companion file lockMark ∧ near.isLocked = false)
        (fun _ => True) ((disk.vicinity file).perform (Vicinity.overwrite terms content)) :=
      Vicinity.keeps_overwrite (Vicinity.lasting_lock held) terms trivial _ ⟨rfl, rfl⟩
    rcases handled.left with ⟨lock, unlocked⟩
    exact lock.symm.trans (lock_of_closed terms isInUse unlocked).symm

@[simp] theorem home_copyToFile (disk : Disk) (file : Path) (terms : Terms) (isInUse : Bool)
    (content : Database) : (disk.copyToFile file terms isInUse content).2.home = disk.home :=
  home_restore _ _ _

@[simp] theorem home_writeBackup (disk : Disk) (backup : String) (inUse : Option Place)
    (content : Database) : (disk.writeBackup backup inUse content).2.home = disk.home := by
  rw [writeBackup]
  split
  · rfl
  · rfl
  · exact home_copyToFile _ _ _ _ _

theorem holds_writeBackup {content : Database} {backup : String} (inUse : Option Place)
    (holds : disk.Holds path content.texts) (inner : path ≠ [])
    (apart : ¬ HasBeside backup disk.home path) :
    (disk.writeBackup backup inUse content).2.Holds path content.texts := by
  rw [writeBackup]
  split
  · exact holds
  · exact holds
  · next file terms placed =>
      refine holds_copyToFile terms _ holds inner fun beside => apart ⟨file, ?_, beside⟩
      exact (opens_of_placeOf placed).target

/-- What is done for a backup while the database is in use: it stays as it is. -/
structure BacksUp (disk : Disk) (backup : String) (objects : Objects String) (written : Disk) :
    Prop where
  home : written.home = disk.home
  holds : ∀ {path : Path}, disk.Holds path objects → path ≠ [] →
    ¬ HasBeside backup disk.home path → written.Holds path objects

theorem backsUp_makeBackupDirectory (disk : Disk) (backup : String) (objects : Objects String) :
    disk.BacksUp backup objects (disk.makeBackupDirectory backup).2 := by
  have extended : disk.Extends (disk.makeBackupDirectory backup).2 :=
    extends_makeDirectoriesBack disk _ _
  refine ⟨extended.home, fun holds _ _ => ?_⟩
  rcases holds with ⟨content, found, shown⟩
  exact ⟨content, extended.found found, shown⟩

theorem BacksUp.write {backup : String} {content : Database} {made : Disk}
    (directed : disk.BacksUp backup content.texts made) (inUse : Option Place) :
    disk.BacksUp backup content.texts (made.writeBackup backup inUse content).2 := by
  refine ⟨(home_writeBackup _ _ _ _).trans directed.home, fun holds inner apart => ?_⟩
  apply holds_writeBackup inUse (directed.holds holds inner apart) inner
  rw [directed.home]
  exact apart

end Disk

namespace Installation

variable {installation : Installation} {disk : Disk} {backup : String}

def ApartFrom (installation : Installation) (backup : String) (home : Path) : Prop :=
  ∀ path, Address.target? installation.path home = some path → ¬ Disk.HasBeside backup home path

instance (installation : Installation) (backup : String) (home : Path) :
    Decidable (installation.ApartFrom backup home) :=
  inferInstanceAs (Decidable (∀ path ∈ Address.target? installation.path home,
    ¬ Disk.HasBeside backup home path))

theorem backup_of_opened (backup : String) {opened : Database} {occupied : Disk}
    {close : Disk → Disk} (opens : installation.openSite (disk.site installation.path) = .ok opened)
    (inUse : disk.occupy installation.path ((disk.site installation.path).leave opened) =
      (occupied, close)) :
    ∃ written, (installation.backup backup disk).2 = close written ∧
      occupied.BacksUp backup opened.texts written := by
  have directed := occupied.backsUp_makeBackupDirectory backup opened.texts
  rcases went : occupied.makeBackupDirectory backup with ⟨outcome, made⟩
  rw [went] at directed
  rw [Installation.backup, visit, opens]
  simp only [inUse, went]
  cases outcome with
  | error failure => exact ⟨made, rfl, directed⟩
  | ok done => exact ⟨_, rfl, directed.write _⟩

theorem backup_of_unopened (backup : String) {failure : Failure}
    (opens : installation.openSite (disk.site installation.path) = .error failure) :
    (installation.backup backup disk).2 =
      disk.settle installation.path (disk.site installation.path).visited := by
  rw [Installation.backup, visit, opens]
  rfl

theorem occupy_of_vanishing {opened : Database}
    (same : (disk.site installation.path).leave opened = disk.site installation.path) :
    disk.occupy installation.path ((disk.site installation.path).leave opened) = (disk, id) := by
  rw [same]
  exact Disk.occupy_of_unopened (Disk.isOpened_site disk _)

@[simp] theorem home_backup (installation : Installation) (backup : String) (disk : Disk) :
    (installation.backup backup disk).2.home = disk.home := by
  cases opens : installation.openSite (disk.site installation.path) with
  | error failure => rw [backup_of_unopened backup opens, Disk.home_settle]
  | ok opened =>
      rcases Disk.opened_cases opens with ⟨_, _, same⟩ | ⟨path, terms, placed, _, leaves⟩
      · rcases backup_of_opened backup opens (occupy_of_vanishing (same opened)) with
          ⟨written, closed, backsUp⟩
        rw [closed, id, backsUp.home]
      · rcases Disk.occupy_of_file placed (leaves opened).1 with ⟨near, _, _, inUse, _⟩
        rcases backup_of_opened backup opens inUse with ⟨written, closed, backsUp⟩
        rw [closed, Disk.home_release, backsUp.home, Disk.home_restore]

theorem texts_backup (apart : installation.ApartFrom backup disk.home) :
    (installation.backup backup disk).2.texts installation.path = disk.texts installation.path := by
  cases opens : installation.openSite (disk.site installation.path) with
  | error failure => rw [backup_of_unopened backup opens, Disk.texts_of_visited]
  | ok opened =>
      rcases Disk.opened_cases opens with
        ⟨_, nowhere, same⟩ | ⟨path, terms, placed, stored, leaves⟩
      · rcases backup_of_opened backup opens (occupy_of_vanishing (same opened)) with
          ⟨written, closed, backsUp⟩
        rw [closed, id, Disk.texts_of_nowhere nowhere, Disk.texts_of_nowhere]
        rw [backsUp.home, nowhere]
      · have opensAt := Disk.opens_of_placeOf placed
        rcases Disk.occupy_of_file placed (leaves opened).1 with
          ⟨near, isLogged, isLocked, inUse, left⟩
        rw [Site.texts?_of_ground (leaves opened).2] at left
        rcases Option.map_eq_some_iff.mp left with ⟨kept, keptContent, sameTexts⟩
        have occupied : (disk.restore path near).Holds path opened.texts := by
          refine ⟨kept, ?_, sameTexts⟩
          rw [Disk.node?_restore_self disk near opensAt.inner, keptContent]
        rcases backup_of_opened backup opens inUse with ⟨written, closed, backsUp⟩
        have holds : written.Holds path opened.texts := by
          apply backsUp.holds occupied opensAt.inner
          rw [Disk.home_restore]
          exact apart path opensAt.target
        have named : Address.target? installation.path
            (written.release path terms isLogged isLocked).home = some path := by
          rw [Disk.home_release, backsUp.home, Disk.home_restore]
          exact opensAt.target
        rw [closed, Disk.texts_eq named, ← stored]
        exact Disk.textsAt_of_holds (holds.congr (Disk.node?_release _ _ _ _ opensAt.inner))

end Installation

end StoreMigration
