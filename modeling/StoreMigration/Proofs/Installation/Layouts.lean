import StoreMigration.Proofs.Disk.Reopening
import StoreMigration.Proofs.Installation.Agreement

/-! Opening a database whatever its layout is. A layout that is too new is refused, and what is
stored stays as it is. Every other one is brought up to date by the first opening, whether or not
there are tables already, and later openings find it so: `Installation.opens_safely`. -/

namespace StoreMigration

namespace Database

variable {content opened : Database}

/-! ## Bringing a layout up to date -/

structure Resembles (left right : Database) : Prop where
  layouts : left.layouts = right.layouts
  tables : left.tables = right.tables

theorem Resembles.trans {middle : Database} (first : content.Resembles middle)
    (second : middle.Resembles opened) : content.Resembles opened :=
  ⟨first.layouts.trans second.layouts, first.tables.trans second.tables⟩

theorem Resembles.currentLayout (resembles : content.Resembles opened) :
    content.currentLayout = opened.currentLayout := by
  rw [Database.currentLayout, Database.currentLayout, resembles.layouts]

theorem currentLayout_mem (positive : 0 < content.currentLayout) :
    content.currentLayout ∈ content.layouts := by
  rw [Database.currentLayout] at positive ⊢
  cases greatest : content.layouts.max? with
  | none =>
      rw [greatest] at positive
      cases positive
  | some recorded => exact (List.max?_eq_some_iff.mp greatest).1

theorem lt_currentLayout_iff {layout : Int} (nonnegative : 0 ≤ layout) :
    layout < content.currentLayout ↔ ∃ recorded ∈ content.layouts, layout < recorded := by
  constructor
  · intro greater
    exact ⟨_, currentLayout_mem (Int.lt_of_le_of_lt nonnegative greater), greater⟩
  · rintro ⟨recorded, member, greater⟩
    exact Int.lt_of_lt_of_le greater (le_currentLayout member)

/-- The latest layout is recorded besides those that were, and no object is lost. Tables are made
along with that record. Where it was the greatest one already nothing changes. -/
structure Brings (content opened : Database) : Prop where
  layouts : ∀ layout, layout ∈ opened.layouts ↔ layout = latestLayout ∨ layout ∈ content.layouts
  stored : opened.stored = content.stored
  tables : opened.tables.isSome ↔ content.tables.isSome ∨ latestLayout ∉ content.layouts
  current : opened.currentLayout = latestLayout
  still : content.currentLayout = latestLayout → opened.Resembles content

theorem Brings.of_resembles {shown : Database} (brings : shown.Brings opened)
    (resembles : shown.Resembles content) : content.Brings opened where
  layouts := resembles.layouts ▸ brings.layouts
  stored := by rw [brings.stored, Database.stored, Database.stored, resembles.tables]
  tables := by rw [brings.tables, resembles.tables, resembles.layouts]
  current := brings.current
  still current := (brings.still (resembles.currentLayout.trans current)).trans resembles

theorem layoutStatus_of_current (current : content.currentLayout = latestLayout) :
    content.layoutStatus = ⟨latestLayout, latestLayout, []⟩ := by
  rw [layoutStatus, current]
  rfl

theorem brings_of_migrated (migrated : content.migrateLayout = .ok opened) :
    content.Brings opened := by
  have current := currentLayout_of_migrated migrated
  rw [migrateLayout] at migrated
  split at migrated
  · cases migrated
  split at migrated
  · next older =>
      have latest : latestLayout = 1 := rfl
      cases migrated
      have unrecorded : latestLayout ∉ content.layouts := fun recorded =>
        absurd (Int.lt_of_le_of_lt (le_currentLayout recorded) older) (by decide)
      exact ⟨fun _ => mem_recordLayout, rfl, ⟨fun _ => .inr unrecorded, fun _ => rfl⟩, current,
        fun now => by omega⟩
  · cases migrated
    have positive : 0 < content.currentLayout := by
      rw [current]
      decide
    have recorded : latestLayout ∈ content.layouts := current ▸ currentLayout_mem positive
    exact ⟨fun layout => ⟨.inr, fun either => either.elim (fun same => same ▸ recorded) id⟩, rfl,
      ⟨.inl, fun either => either.resolve_right (absurd recorded)⟩, current, fun _ => ⟨rfl, rfl⟩⟩

theorem migrateLayout_cases (content : Database) :
    (∃ layout ∈ content.layouts, latestLayout < layout) ∧
        content.migrateLayout = .error ⟨content.currentLayout⟩ ∨
      (∀ layout ∈ content.layouts, layout ≤ latestLayout) ∧
        ∃ opened, content.migrateLayout = .ok opened ∧ content.Brings opened := by
  by_cases newer : latestLayout < content.currentLayout
  · have recorded := (lt_currentLayout_iff (by decide)).mp newer
    exact .inl ⟨recorded, by rw [migrateLayout, if_pos newer]⟩
  · have older : ∀ layout ∈ content.layouts, layout ≤ latestLayout := fun layout member =>
      Int.le_trans (le_currentLayout member) (Int.not_lt.mp newer)
    have migrates : ∃ opened, content.migrateLayout = .ok opened := by
      rw [migrateLayout, if_neg newer]
      split <;> exact ⟨_, rfl⟩
    rcases migrates with ⟨opened, migrated⟩
    exact .inr ⟨older, opened, migrated, brings_of_migrated migrated⟩

end Database

/-! ## A file that can be used -/

theorem Vicinity.lasting_resembling (content : Database) :
    Lasting (fun near => ∀ shown, near.content = some shown → shown.Resembles content)
      (Database.Resembles · content) where
  beside same _ _ holds := by rwa [same]
  lock _ holds := holds
  found there holds := holds _ there
  journaled _ resembles := ⟨resembles.layouts, resembles.tables⟩
  replaced resembles _ := by
    rintro _ ⟨⟩
    exact resembles

namespace Disk

/-- The text is just a path and leads to a file with that database in it, and nothing beside the
file keeps the engine from opening it for writing. -/
structure Offers (disk : Disk) (text : String) (path : Path) (content : Database) : Prop where
  plain : Address.IsPlain text
  placed : disk.placeOf text = .ok (.file path .usual)
  located : ∃ place, disk.locate text = .ok place
  room : path.HasRoom
  stored : disk.node? path = some (.database content)
  writable : ∃ shown near, (disk.vicinity path).perform (Vicinity.configure .usual) =
    (.ok shown, near) ∧ near.refusal .usual = none

variable {disk : Disk} {text : String} {path : Path} {content left : Database}

theorem Offers.shows (offers : disk.Offers text path content) :
    ∃ shown, (disk.site text).ground = .database shown ∧ (disk.site text).refusal = none ∧
      shown.Resembles content := by
  rcases offers.writable with ⟨shown, near, went, free⟩
  rcases ground_of_configured offers.placed went with ⟨ground, refusal⟩
  refine ⟨shown, ground, refusal.trans free, ?_⟩
  have configured := Vicinity.keeps_configure (Vicinity.lasting_resembling content) .usual
    (disk.vicinity path) ?_
  · rw [went] at configured
    exact configured.answered shown rfl
  · intro there found
    rw [vicinity, offers.stored] at found
    cases found
    exact ⟨rfl, rfl⟩

theorem Offers.after_settle (offers : disk.Offers text path content) {site : Site}
    (opened : site.isOpened = true) (ground : site.ground = .database left) :
    (disk.settle text site).Offers text path left := by
  rcases offers.writable with ⟨shown, near, went, free⟩
  have settles := settles_of_opened offers.placed offers.room went free opened ground
  rcases offers.located with ⟨place, located⟩
  have locatedAfter := (locate_eq_ok_iff settles.home settles.directories).mpr located
  have found : ((disk.settle text site).vicinity path).content = some left := by
    rw [vicinity, settles.stored]
  rcases Vicinity.configure_of_clear settles.clear found with ⟨later, configured, free⟩
  exact ⟨offers.plain,
    placeOf_again offers.plain settles.home offers.placed locatedAfter settles.stored,
    ⟨place, locatedAfter⟩, offers.room, settles.stored, _, later, configured, free⟩

end Disk

/-! ## Opening -/

namespace Installation

def tellLayout (installation : Installation) (disk : Disk) : Except Failure LayoutStatus × Disk :=
  disk.visit installation.path
    (installation.visit fun opened => (.ok opened.layoutStatus, opened))

def tellLayouts (installation : Installation) :
    Nat → Disk → List (Except Failure LayoutStatus) × Disk
  | 0, disk => ([], disk)
  | times + 1, disk =>
      let (told, after) := installation.tellLayout disk
      let (others, last) := installation.tellLayouts times after
      (told :: others, last)

variable {installation : Installation} {disk : Disk} {path : Path} {content : Database}

inductive Tells (installation : Installation) (disk : Disk) (path : Path) (content : Database) :
    Except Failure LayoutStatus → Disk → Prop
  | refused {left : Database} {after : Disk}
      (newer : ∃ layout ∈ content.layouts, Database.latestLayout < layout)
      (offers : after.Offers installation.path path left) (same : left.Resembles content) :
      Tells installation disk path content
        (.error (.of (.unsupportedLayout content.currentLayout))) after
  | opened {left : Database} {after : Disk}
      (older : ∀ layout ∈ content.layouts, layout ≤ Database.latestLayout)
      (offers : after.Offers installation.path path left) (brings : content.Brings left) :
      Tells installation disk path content
        (.ok ⟨Database.latestLayout, Database.latestLayout, []⟩) after

theorem tells_of_offers (offers : disk.Offers installation.path path content) :
    Tells installation disk path content (installation.tellLayout disk).1
      (installation.tellLayout disk).2 := by
  rcases offers.shows with ⟨shown, ground, unrefused, resembles⟩
  have opens : installation.openSite (disk.site installation.path) =
      shown.migrateLayout.mapError fun newer => .of (.unsupportedLayout newer.version) := by
    rw [openSite, ground, unrefused]
    exact openDatabase_unrestricted shown
  have visited : installation.tellLayout disk = disk.visit installation.path
      (installation.visit fun opened => (.ok opened.layoutStatus, opened)) := rfl
  rw [visited, Disk.visit, visit, opens]
  rcases shown.migrateLayout_cases with ⟨newer, refused⟩ | ⟨older, left, migrated, brings⟩
  · rw [refused, resembles.currentLayout]
    exact .refused (resembles.layouts ▸ newer) (offers.after_settle rfl ground) resembles
  · have left_ground : ((disk.site installation.path).leave left).ground = .database left ∧
        ((disk.site installation.path).leave left).isOpened = true := by
      rw [Site.leave, ground]
      exact ⟨rfl, rfl⟩
    rw [migrated]
    show Tells installation disk path content (.ok left.layoutStatus) _
    rw [Database.layoutStatus_of_current brings.current]
    exact .opened (resembles.layouts ▸ older) (offers.after_settle left_ground.2 left_ground.1)
      (brings.of_resembles resembles)

/-! ## Opening again -/

def Repeats (installation : Installation) (times : Nat) (disk : Disk) (path : Path)
    (content : Database) (told : Except Failure LayoutStatus) : Prop :=
  (installation.tellLayouts times disk).1 = List.replicate times told ∧
    ∃ left, (installation.tellLayouts times disk).2.Offers installation.path path left ∧
      left.Resembles content

theorem tellLayouts_succ (installation : Installation) (times : Nat) (disk : Disk) :
    installation.tellLayouts (times + 1) disk =
      ((installation.tellLayout disk).1 ::
          (installation.tellLayouts times (installation.tellLayout disk).2).1,
        (installation.tellLayouts times (installation.tellLayout disk).2).2) :=
  rfl

theorem repeats_of_step {told : Except Failure LayoutStatus}
    (step : ∀ {disk now}, disk.Offers installation.path path now → now.Resembles content →
      (installation.tellLayout disk).1 = told ∧
        ∃ left, (installation.tellLayout disk).2.Offers installation.path path left ∧
          left.Resembles content)
    {now : Database} (offers : disk.Offers installation.path path now)
    (resembles : now.Resembles content) (times : Nat) :
    installation.Repeats times disk path content told := by
  induction times generalizing disk now with
  | zero => exact ⟨rfl, now, offers, resembles⟩
  | succ times induction =>
      rcases step offers resembles with ⟨first, left, offersAfter, resemblesAfter⟩
      rcases induction offersAfter resemblesAfter with ⟨others, last⟩
      rw [Repeats, tellLayouts_succ, first, others]
      exact ⟨rfl, last⟩

theorem repeats_of_newer (offers : disk.Offers installation.path path content)
    (newer : ∃ layout ∈ content.layouts, Database.latestLayout < layout) (times : Nat) :
    installation.Repeats times disk path content
      (.error (.of (.unsupportedLayout content.currentLayout))) := by
  refine repeats_of_step (fun {disk now} offers resembles => ?_) offers ⟨rfl, rfl⟩ times
  have tells := tells_of_offers offers
  generalize (installation.tellLayout disk).1 = told at tells ⊢
  generalize (installation.tellLayout disk).2 = after at tells ⊢
  cases tells with
  | refused _ offersAfter same =>
      exact ⟨by rw [resembles.currentLayout], _, offersAfter, same.trans resembles⟩
  | opened older _ _ =>
      rcases newer with ⟨layout, member, newer⟩
      exact absurd (older layout (resembles.layouts ▸ member)) (Int.not_le.mpr newer)

theorem repeats_of_current (offers : disk.Offers installation.path path content)
    (current : content.currentLayout = Database.latestLayout) (times : Nat) :
    installation.Repeats times disk path content
      (.ok ⟨Database.latestLayout, Database.latestLayout, []⟩) := by
  refine repeats_of_step (fun {disk now} offers resembles => ?_) offers ⟨rfl, rfl⟩ times
  have currentNow := resembles.currentLayout.trans current
  have tells := tells_of_offers offers
  generalize (installation.tellLayout disk).1 = told at tells ⊢
  generalize (installation.tellLayout disk).2 = after at tells ⊢
  cases tells with
  | refused newer _ _ =>
      have later := (Database.lt_currentLayout_iff (by decide)).mpr newer
      rw [currentNow] at later
      exact absurd later (Int.lt_irrefl _)
  | opened _ offersAfter brings =>
      exact ⟨rfl, _, offersAfter, (brings.still currentNow).trans resembles⟩

/-- A database with a layout that is too new is refused by every opening, and its layouts and its
tables stay. Any other one is opened, its objects stay, its layout is the latest from then on, and
opening it again any number of times changes neither. It has tables then, unless that layout was
recorded before although it had none. -/
theorem opens_safely (offers : disk.Offers installation.path path content) :
    ((∃ layout ∈ content.layouts, 1 < layout) → ∀ times,
      (installation.tellLayouts times disk).1 =
          List.replicate times (.error (.of (.unsupportedLayout content.currentLayout))) ∧
        ∃ left, (installation.tellLayouts times disk).2.node? path = some (.database left) ∧
          left.layouts = content.layouts ∧ left.tables = content.tables) ∧
    ((∀ layout ∈ content.layouts, layout ≤ 1) → ∃ layouts tables,
      (∀ layout, layout ∈ layouts ↔ layout = 1 ∨ layout ∈ content.layouts) ∧
      (tables.isSome ↔ content.tables.isSome ∨ 1 ∉ content.layouts) ∧
      tables.getD Buckets.empty = content.stored ∧ ∀ times,
        (installation.tellLayouts (times + 1) disk).1 =
            List.replicate (times + 1) (.ok ⟨1, 1, []⟩) ∧
          ∃ left, (installation.tellLayouts (times + 1) disk).2.node? path = some (.database left) ∧
            left.layouts = layouts ∧ left.tables = tables) := by
  constructor
  · intro newer times
    rcases repeats_of_newer offers newer times with ⟨told, left, offersAfter, resembles⟩
    exact ⟨told, left, offersAfter.stored, resembles.layouts, resembles.tables⟩
  · intro older
    have tells := tells_of_offers offers
    generalize first : (installation.tellLayout disk).1 = told at tells
    generalize went : (installation.tellLayout disk).2 = after at tells
    cases tells with
    | refused newer _ _ =>
        rcases newer with ⟨layout, member, newer⟩
        exact absurd (older layout member) (Int.not_le.mpr newer)
    | @opened opened _ _ offersAfter brings =>
        refine ⟨opened.layouts, opened.tables, brings.layouts, brings.tables, brings.stored,
          fun times => ?_⟩
        rcases repeats_of_current offersAfter brings.current times with
          ⟨others, left, offersLast, resembles⟩
        rw [tellLayouts_succ, first, went, others]
        exact ⟨rfl, left, offersLast.stored, resembles.layouts, resembles.tables⟩

/-- An opening was interrupted: there are tables, with an object, and no layout was recorded for
them. -/
theorem opens_safely_unrecorded :
    let content : Database :=
      ⟨[-1], some (Buckets.empty.write "app" "theme" "\"dark\""), .rollback⟩
    let installation : Installation := ⟨"kvmigrate.sqlite3", ⟨1⟩, "01J0000000000000000000000A"⟩
    let path : Path := ["home", "kvmigrate.sqlite3"]
    let disk : Disk := ⟨["home"], [(["home"], .directory), (path, .database content)]⟩
    disk.Offers installation.path path content ∧ (∀ layout ∈ content.layouts, layout ≤ 1) ∧
      (installation.tellLayouts 3 disk).1 = List.replicate 3 (.ok ⟨1, 1, []⟩) ∧
      ∃ left, (installation.tellLayouts 3 disk).2.node? path = some (.database left) ∧
        (∀ layout, layout ∈ left.layouts ↔ layout = 1 ∨ layout = -1) ∧
        left.tables.isSome ∧ left.stored = content.stored := by
  intro content installation path disk
  have clear : (disk.vicinity path).Clear := ⟨.inl rfl, rfl, nofun, rfl⟩
  have writable : ∃ shown near, (disk.vicinity path).perform (Vicinity.configure .usual) =
      (.ok shown, near) ∧ near.refusal .usual = none := by
    rcases Vicinity.configure_of_clear clear rfl with ⟨near, went, free⟩
    exact ⟨_, near, went, free⟩
  have plain : Address.IsPlain "kvmigrate.sqlite3" := rfl
  have located : disk.locate installation.path = .ok path := ok_of_toOption (by decide +kernel)
  have shortened : disk.shorten installation.path = some path := by decide +kernel
  have placed : disk.placeOf installation.path = .ok (.file path .usual) := by
    rw [Disk.placeOf_of_plain disk plain, shortened]
    rfl
  have offers : disk.Offers installation.path path content :=
    ⟨plain, placed, ⟨path, located⟩, by decide, rfl, writable⟩
  have older : ∀ layout ∈ content.layouts, layout ≤ 1 := by decide
  rcases (opens_safely offers).2 older with ⟨layouts, tables, recorded, made, stored, openings⟩
  rcases openings 2 with ⟨told, left, there, rfl, rfl⟩
  refine ⟨offers, older, told, left, there, fun layout => ?_, made.mpr (.inl rfl), stored⟩
  rw [recorded layout, List.mem_singleton]

end Installation

end StoreMigration
