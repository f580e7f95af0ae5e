import StoreMigration.Installation.Backup
import StoreMigration.Proofs.Disk.Handling
import StoreMigration.Proofs.Disk.Nodes

/-! What is stored under the text of a path, and what using the disk leaves of it. Opening a
database shows what is stored, and closing it stores what the use of it left. A backup to
another file leaves the database as it is, unless that is one of the files that the engine
keeps beside the backup. -/

namespace StoreMigration

def Objects.none : Objects α := fun _ _ => Option.none

def Site.texts? (site : Site) : Option (Objects String) :=
  match site.ground with
  | .database content => some content.texts
  | _ => none

theorem Site.texts?_of_ground {site : Site} {left : Database}
    (ground : site.ground = .database left) : site.texts? = some left.texts := by
  rw [texts?, ground]

namespace Disk

/-- The objects of the database at a path; there are none where there is no database. -/
def textsAt (disk : Disk) (path : Path) : Objects String :=
  match disk.node? path with
  | some (.database content) => content.texts
  | _ => Objects.none

def texts (disk : Disk) (text : String) : Objects String :=
  match Address.target? text disk.home with
  | some path => disk.textsAt path
  | none => Objects.none

variable {disk : Disk} {text : String} {path : Path} {terms : Terms}

theorem texts_eq (named : Address.target? text disk.home = some path) :
    disk.texts text = disk.textsAt path := by
  rw [texts, named]

theorem texts_of_nowhere (nowhere : Address.target? text disk.home = none) :
    disk.texts text = Objects.none := by
  rw [texts, nowhere]

theorem texts_of_opens (opens : disk.Opens text path) : disk.texts text = disk.textsAt path :=
  texts_eq opens.target

theorem textsAt_of_found {content : Database} (found : disk.node? path = some (.database content)) :
    disk.textsAt path = content.texts := by
  rw [textsAt, found]

theorem textsAt_congr {other : Disk} (same : other.node? path = disk.node? path) :
    other.textsAt path = disk.textsAt path := by
  rw [textsAt, textsAt, same]

theorem textsAt_eq_vicinity (disk : Disk) (path : Path) :
    disk.textsAt path = ((disk.vicinity path).texts?).getD Objects.none := by
  rw [textsAt, Vicinity.texts?, vicinity]
  cases disk.node? path with
  | none => rfl
  | some node => cases node <;> rfl

theorem textsAt_restore (near : Vicinity) (inner : path ≠ []) :
    (disk.restore path near).textsAt path = near.texts?.getD (disk.textsAt path) := by
  rw [textsAt, node?_restore_self disk near inner, Vicinity.texts?]
  cases near.content <;> rfl

/-! ## Opening -/

theorem configured (disk : Disk) (path : Path) (terms : Terms) :
    Handling.Ends (fun near => near.texts? = (disk.vicinity path).texts?)
      (fun content => (disk.vicinity path).texts? = some content.texts)
      ((disk.vicinity path).perform (Vicinity.configure terms)) :=
  Vicinity.keeps_configure (Vicinity.lasting_texts _) terms _ rfl

theorem site_of_placeOf (placed : disk.placeOf text = .ok (.file path terms)) :
    disk.site text = disk.siteAt text path terms := by
  rw [site, placed]

theorem texts_of_ground {content : Database} (placed : disk.placeOf text = .ok (.file path terms))
    (ground : (disk.site text).ground = .database content) : content.texts = disk.textsAt path := by
  rw [site_of_placeOf placed, siteAt] at ground
  have shown := (configured disk path terms).answered
  rcases went : (disk.vicinity path).perform (Vicinity.configure terms) with ⟨outcome, near⟩
  rw [went] at shown
  simp only [went] at ground
  cases outcome with
  | error error => cases ground
  | ok answer =>
      cases ground
      rw [textsAt_eq_vicinity, shown content rfl]
      rfl

/-! ## Closing -/

theorem node?_release (disk : Disk) (terms : Terms) (isLogged isLocked : Bool) (inner : path ≠ []) :
    (disk.release path terms isLogged isLocked).node? path = disk.node? path := by
  rw [release]
  split
  · next present =>
      rw [node?_restore_self _ _ inner]
      cases there : disk.node? path with
      | none =>
          rw [there] at present
          cases present
      | some node => cases node <;> simp [Vicinity.close, Vicinity.leave, vicinity, there]
  · exact node?_restore_self _ _ inner

@[simp] theorem home_release (disk : Disk) (path : Path) (terms : Terms)
    (isLogged isLocked : Bool) :
    (disk.release path terms isLogged isLocked).home = disk.home := by
  rw [release]
  split <;> exact home_restore _ _ _

/-- While a file is in use it has what the use of it left, or else what opening it left. -/
theorem occupied_of_file {site : Site} (placed : disk.placeOf text = .ok (.file path terms))
    (opened : site.isOpened = true) : ∃ near isLogged isLocked,
      disk.occupy text site =
        (disk.restore path near, fun after => after.release path terms isLogged isLocked) ∧
      ((∃ left, site.ground = .database left ∧ near.content = some left) ∨
        (∀ left, site.ground ≠ .database left) ∧
          near = ((disk.vicinity path).perform (Vicinity.configure terms)).2) := by
  rcases went : (disk.vicinity path).perform (Vicinity.configure terms) with ⟨outcome, near⟩
  cases ground : site.ground with
  | database content =>
      refine ⟨near.keep content, (near.keep content).isLogged, (near.keep content).isLocked, ?_,
        .inl ⟨content, rfl, ?_⟩⟩
      · simp only [occupy, opened, placed, went, ground]
      · rw [Vicinity.keep]
        split
        · next same => exact same
        · rfl
  | transient | closed error | unusable error =>
      refine ⟨near, near.isLogged, near.isLocked, ?_, .inr ⟨nofun, rfl⟩⟩
      simp only [occupy, opened, placed, went, ground]

theorem occupy_of_file {site : Site} (placed : disk.placeOf text = .ok (.file path terms))
    (opened : site.isOpened = true) : ∃ near isLogged isLocked,
      disk.occupy text site =
        (disk.restore path near, fun after => after.release path terms isLogged isLocked) ∧
      near.texts? = site.texts?.or (disk.vicinity path).texts? := by
  rcases occupied_of_file placed opened with ⟨near, isLogged, isLocked, occupied, used⟩
  refine ⟨near, isLogged, isLocked, occupied, ?_⟩
  rcases used with ⟨left, ground, shown⟩ | ⟨unused, rfl⟩
  · rw [Vicinity.texts?, Site.texts?, shown, ground]
    rfl
  · rw [Site.texts?]
    split
    · next left ground => exact absurd ground (unused left)
    · exact (configured disk path terms).left

theorem occupy_of_unopened {site : Site} (unopened : site.isOpened = false) :
    disk.occupy text site = (disk, id) := by
  rw [occupy, unopened]

theorem occupy_of_nowhere {site : Site}
    (nowhere : ∀ path terms, disk.placeOf text ≠ .ok (.file path terms)) :
    disk.occupy text site = (disk, id) := by
  rw [occupy]
  split
  · next path terms _ placed => exact absurd placed (nowhere path terms)
  · rfl

theorem textsAt_occupy {site : Site} (placed : disk.placeOf text = .ok (.file path terms))
    (opened : site.isOpened = true) :
    (disk.occupy text site).1.textsAt path = site.texts?.getD (disk.textsAt path) := by
  rcases occupy_of_file placed opened with ⟨near, _, _, occupied, left⟩
  rw [occupied, textsAt_restore near (opens_of_placeOf placed).inner, left, textsAt_eq_vicinity]
  cases site.texts? with
  | some objects => rfl
  | none => cases (disk.vicinity path).texts? <;> rfl

theorem texts_settle {site : Site} (placed : disk.placeOf text = .ok (.file path terms))
    (opened : site.isOpened = true) :
    (disk.settle text site).texts text = site.texts?.getD (disk.texts text) := by
  have opens := opens_of_placeOf placed
  have used := textsAt_occupy placed opened
  rcases occupy_of_file placed opened with ⟨near, isLogged, isLocked, occupied, _⟩
  rw [occupied] at used
  have settled : disk.settle text site =
      (disk.restore path near).release path terms isLogged isLocked := by
    rw [settle, occupied]
  have named : Address.target? text (disk.settle text site).home = some path := by
    rw [settled, home_release, home_restore]
    exact opens.target
  rw [texts_eq named, texts_of_opens opens, settled,
    textsAt_congr (node?_release _ terms isLogged isLocked opens.inner)]
  exact used

end Disk

end StoreMigration
