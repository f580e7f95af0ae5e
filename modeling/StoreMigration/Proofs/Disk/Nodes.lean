import StoreMigration.Disk.Opening

/-! What a change to a disk does to other places. A place is changed only by what is put
there or taken away from there: writing back a file changes the file and what is beside it,
and making directories changes nothing that is there. The text by which a database is opened
tells its place, whatever the disk holds (`opens_of_placeOf`). -/

namespace StoreMigration

namespace Path

@[simp] theorem name_beside (path : Path) (mark : String) :
    (path.beside mark).name = path.name ++ mark := by
  rw [name, beside, List.getLast?_concat, Option.getD_some]

theorem beside_ne (path : Path) {mark : String} (marked : mark ≠ "") : path.beside mark ≠ path := by
  intro same
  have longer : path.name ++ mark = path.name := by rw [← name_beside, same]
  exact marked (String.append_eq_left_iff.mp longer)

end Path

namespace Disk

variable {disk : Disk} {path place : Path}

/-! ## Putting and taking away -/

theorem lookup_filter_of_ne (nodes : List (Path × Node)) (other : place ≠ path) :
    (nodes.filter fun entry => entry.1 != path).lookup place = nodes.lookup place := by
  induction nodes with
  | nil => rfl
  | cons head rest induction =>
      by_cases own : head.1 = path
      · rw [List.filter_cons_of_neg (by simp [own]), induction, List.lookup_cons,
          beq_false_of_ne (own ▸ other)]
      · rw [List.filter_cons_of_pos (by simp [own]), List.lookup_cons, List.lookup_cons, induction]

theorem node?_put_self (disk : Disk) (node : Node) (inner : path ≠ []) :
    (disk.put path node).node? path = some node := by
  simp [node?, put, inner]

theorem node?_put_of_ne (disk : Disk) (node : Node) (other : place ≠ path) :
    (disk.put path node).node? place = disk.node? place := by
  rw [node?, node?, put, List.lookup_cons, beq_false_of_ne other, lookup_filter_of_ne _ other]

theorem node?_erase_of_ne (disk : Disk) (other : place ≠ path) :
    (disk.erase path).node? place = disk.node? place := by
  rw [node?, node?, erase, lookup_filter_of_ne _ other]

theorem node?_put_of_missing {node there : Node} (missing : disk.node? path = none)
    (found : disk.node? place = some there) : (disk.put path node).node? place = some there := by
  have other : place ≠ path := by
    rintro rfl
    cases missing.symm.trans found
  rw [node?_put_of_ne disk node other, found]

/-! ## Writing back a file -/

theorem companion_congr {other : Disk} {mark : String}
    (same : disk.node? (path.beside mark) = other.node? (path.beside mark)) :
    disk.companion path mark = other.companion path mark := by
  rw [companion, companion, same]

theorem node?_putCompanion {mark : String} {after : Companion}
    (stays : place = path.beside mark → disk.companion path mark = after) :
    (disk.putCompanion path mark after).node? place = disk.node? place := by
  rw [putCompanion]
  split
  · rfl
  · next changed =>
      have other : place ≠ path.beside mark := fun same => changed (stays same)
      cases after with
      | missing | unnameable => exact node?_erase_of_ne disk other
      | empty | full | directory => exact node?_put_of_ne disk _ other

@[simp] theorem home_putCompanion (disk : Disk) (path : Path) (mark : String) (after : Companion) :
    (disk.putCompanion path mark after).home = disk.home := by
  rw [putCompanion]
  split
  · rfl
  · cases after <;> rfl

@[simp] theorem home_restore (disk : Disk) (path : Path) (near : Vicinity) :
    (disk.restore path near).home = disk.home := by
  rw [restore]
  cases near.content <;> simp [put]

theorem node?_putCompanions (near : Vicinity) (noJournal : place ≠ path.beside journalMark)
    (noLog : place ≠ path.beside logMark) (noIndex : place ≠ path.beside indexMark)
    (noLock : place = path.beside lockMark → disk.companion path lockMark = near.lock) :
    ((((disk.putCompanion path journalMark near.journal).putCompanion path logMark near.log
      ).putCompanion path indexMark near.index).putCompanion path lockMark near.lock).node? place =
        disk.node? place := by
  have others : (((disk.putCompanion path journalMark near.journal).putCompanion path logMark
      near.log).putCompanion path indexMark near.index).node? place = disk.node? place := by
    rw [node?_putCompanion fun same => absurd same noIndex,
      node?_putCompanion fun same => absurd same noLog,
      node?_putCompanion fun same => absurd same noJournal]
  rw [node?_putCompanion, others]
  intro same
  rw [← noLock same]
  exact companion_congr (same ▸ others)

theorem node?_restore_self (disk : Disk) (near : Vicinity) (inner : path ≠ []) :
    (disk.restore path near).node? path =
      match near.content with
      | some content => some (.database content)
      | none => disk.node? path := by
  have apart : ∀ {mark : String}, mark ≠ "" → path ≠ path.beside mark :=
    fun marked => (path.beside_ne marked).symm
  rw [restore, node?_putCompanions near (apart (by decide)) (apart (by decide)) (apart (by decide))
    fun same => absurd same (apart (by decide))]
  cases near.content with
  | some content => exact node?_put_self disk _ inner
  | none => rfl

/-- Other places stay as they are, but for those beside the file. A lock that stays as it was
found changes nothing. -/
theorem node?_restore_of_ne (disk : Disk) {near : Vicinity} (other : place ≠ path)
    (noJournal : place ≠ path.beside journalMark) (noLog : place ≠ path.beside logMark)
    (noIndex : place ≠ path.beside indexMark)
    (noLock : place = path.beside lockMark → disk.companion path lockMark = near.lock) :
    (disk.restore path near).node? place = disk.node? place := by
  rw [restore]
  cases near.content with
  | none => exact node?_putCompanions near noJournal noLog noIndex noLock
  | some content =>
      have written := node?_put_of_ne disk (.database content) other
      rw [node?_putCompanions near noJournal noLog noIndex, written]
      intro same
      rw [← noLock same]
      exact companion_congr (same ▸ written)

/-! ## Making directories -/

theorem makeDirectory_cases {made : Disk} {start : Path} {moves : List String}
    (succeeded : disk.makeDirectory start moves = .ok made) :
    made = disk ∨ ∃ target, disk.node? target = none ∧ made = disk.put target .directory := by
  rw [makeDirectory] at succeeded
  cases followed : disk.follow start moves with
  | error obstacle =>
      rw [followed] at succeeded
      cases succeeded
  | ok target =>
      rw [followed] at succeeded
      simp only [bind, Except.bind] at succeeded
      split at succeeded
      · next missing =>
          cases succeeded
          exact .inr ⟨target, missing, rfl⟩
      · cases succeeded
        exact .inl rfl
      · cases succeeded

/-- The disk has what it had, and ways start where they did. -/
structure Extends (disk larger : Disk) : Prop where
  home : larger.home = disk.home
  found : ∀ {place there}, disk.node? place = some there → larger.node? place = some there

theorem extends_makeDirectory {made : Disk} {start : Path} {moves : List String}
    (succeeded : disk.makeDirectory start moves = .ok made) : disk.Extends made := by
  rcases makeDirectory_cases succeeded with rfl | ⟨target, missing, rfl⟩
  · exact ⟨rfl, id⟩
  · exact ⟨rfl, node?_put_of_missing missing⟩

theorem Extends.trans {larger largest : Disk} (first : disk.Extends larger)
    (second : larger.Extends largest) : disk.Extends largest :=
  ⟨second.home.trans first.home, fun found => second.found (first.found found)⟩

theorem extends_makeDirectoriesBack (disk : Disk) (start : Path) (moves : List String) :
    disk.Extends (disk.makeDirectoriesBack start moves).2 := by
  induction moves generalizing disk with
  | nil => exact ⟨rfl, id⟩
  | cons last before induction =>
      rw [makeDirectoriesBack]
      split
      · next made => exact extends_makeDirectory made
      · have upToLast := induction disk
        split
        · next failed => rwa [failed] at upToLast
        · next made =>
            rw [made] at upToLast
            split
            · next madeLast => exact upToLast.trans (extends_makeDirectory madeLast)
            · exact upToLast
      · exact ⟨rfl, id⟩

end Disk

/-! ## The place of a database -/

def Way.target (way : Way) (home : Path) : Path := way.parts.foldl Path.follow (way.start home)

/-- The file by which a text names a database, if it names one on disk. -/
def Address.target? (text : String) (home : Path) : Option Path :=
  match Address.read text with
  | .ok (.file path _ _) => some ((Way.ofText path).target home)
  | _ => none

namespace Disk

variable {disk : Disk} {path place : Path}

theorem shortenParts_eq_foldl {parts : List String}
    (shortened : disk.shortenParts place parts = some path) :
    path = parts.foldl Path.follow place := by
  induction parts generalizing place with
  | nil => exact (Option.some.inj shortened).symm
  | cons part parts induction =>
      rw [shortenParts, List.foldlM_cons] at shortened
      rcases Option.bind_eq_some_iff.mp shortened with ⟨next, once, further⟩
      have same : next = place.follow part := by
        rw [shortenPart] at once
        split at once
        · exact (Option.some.inj once).symm
        · split at once
          · cases once
          · split at once
            · exact (Option.some.inj once).symm
            · exact (Option.some.inj once).symm
            · cases once
      rw [induction further, same, List.foldl_cons]

theorem shorten_eq_target {text : String} (shortened : disk.shorten text = some path) :
    path ≠ [] ∧ path = (Way.ofText text).target disk.home := by
  rcases Option.bind_eq_some_iff.mp shortened with ⟨found, followed, fits⟩
  split at fits
  · cases fits
  · next short =>
      cases fits
      exact ⟨fun root => short (.inl root), shortenParts_eq_foldl followed⟩

theorem file_of_fileAt {terms : Terms} {found : Place}
    (placed : disk.fileAt path terms = .ok found) :
    found = .file path terms ∧ disk.node? path ≠ some .directory := by
  rw [fileAt] at placed
  cases there : disk.node? path with
  | none =>
      rw [there] at placed
      simp only at placed
      split at placed
      · exact ⟨(Except.ok.inj placed).symm, nofun⟩
      · cases placed
  | some node =>
      rw [there] at placed
      cases node with
      | directory => cases placed
      | database content => exact ⟨(Except.ok.inj placed).symm, nofun⟩
      | foreign => exact ⟨(Except.ok.inj placed).symm, nofun⟩

/-- A text opens the file that it names, which is not a directory. -/
structure Opens (disk : Disk) (text : String) (path : Path) : Prop where
  target : Address.target? text disk.home = some path
  inner : path ≠ []
  noDirectory : disk.node? path ≠ some .directory

theorem opens_of_placeOf {text : String} {terms : Terms}
    (placed : disk.placeOf text = .ok (.file path terms)) : disk.Opens text path := by
  rw [placeOf] at placed
  split at placed
  · cases placed
  · cases placed
  · rw [memoryAt] at placed
    split at placed <;> cases placed
  · next named =>
      split at placed
      · cases placed
      · next shortened =>
          rcases shorten_eq_target shortened with ⟨inner, spelled⟩
          split at placed
          · cases placed
          · rcases file_of_fileAt placed with ⟨same, noDirectory⟩
            cases same
            refine ⟨?_, inner, noDirectory⟩
            rw [Address.target?, named, spelled]

end Disk

end StoreMigration
