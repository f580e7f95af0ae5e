import StoreMigration.Proofs.Installation.Answering
import StoreMigration.Proofs.Migration.Plannable

/-! How a look at an installation comes out. It opens the database, makes sure of the bucket, reads
the record and the target, plans and reads the flag, in this order, and the first of these that
fails decides. Only a target that is no version is put down to the target, and only where there
was no trouble before: `Installation.decides`. -/

namespace StoreMigration

open Bookkeeping

namespace Installation

variable {installation : Installation} {target : String} {tables : Buckets String} {site : Site}
  {opened : Database}

/-! ## Surveys -/

/-- What is told of tables and a target, or what keeps it from being told. -/
inductive Surveys (tables : Buckets String) (target : String) :
    Except Failure (Option VersionRecord × PlanOutcome × Bool) → Prop
  | unreadable {error : StoreError}
      (unread : Database.tablesStorage.entry VersionRecord.ofJson recordKey tables = .error error) :
      Surveys tables target (.error (.ofStore .readingRecord error))
  | misnamed {found : Option VersionRecord} {cause : VersionError}
      (readable : Database.tablesStorage.entry VersionRecord.ofJson recordKey tables = .ok found)
      (invalid : Version.read target = .error cause) :
      Surveys tables target (.error (.ofMigration (.planning target) (.invalidTarget target cause)))
  | unplanned {version : Version} {error : MigrationError}
      (valid : Version.read target = .ok version)
      (unplannable : Database.tablesStorage.Unplannable tables)
      (blameless : error.blamesTarget = false) :
      Surveys tables target (.error (.ofMigration (.planning target) error))
  | unflagged {version : Version} {error : StoreError}
      (valid : Version.read target = .ok version)
      (unread : Database.tablesStorage.entry Json.decodeBool updatingKey tables = .error error) :
      Surveys tables target (.error (.ofStore .readingFlag error))
  | told {version : Version} {found : Option VersionRecord} {planned : PlanOutcome}
      {flag : Option Bool}
      (readable : Database.tablesStorage.entry VersionRecord.ofJson recordKey tables = .ok found)
      (valid : Version.read target = .ok version)
      (plannable : ¬ Database.tablesStorage.Unplannable tables)
      (flagged : Database.tablesStorage.entry Json.decodeBool updatingKey tables = .ok flag) :
      Surveys tables target (.ok (found, planned, flag.getD false))

theorem fst_run_survey (installation : Installation) (target : String) (tables : Buckets String) :
    ((installation.survey target).run Database.tablesBackend tables).1 = (do
      let record ← (Database.tablesStorage.entry VersionRecord.ofJson recordKey tables).mapError
        (.ofStore .readingRecord)
      let planned ← ((installation.migrator.plan target).run Database.tablesBackend
        (tables.ensure bucket)).1.mapError (.ofMigration (.planning target))
      let updating ← ((Database.tablesStorage.entry Json.decodeBool updatingKey tables).map
        (·.getD false)).mapError (.ofStore .readingFlag)
      return (record, planned, updating)) := by
  have same := Buckets.read_ensure_eq tables bucket
  have looked : Bookkeeping.record?.run Database.tablesBackend (tables.ensure bucket) = _ :=
    Database.tablesStorage_faithful.run_getAs VersionRecord.ofJson recordKey _
  have planned : (installation.migrator.plan target).run Database.tablesBackend
      (tables.ensure bucket) = (_, tables.ensure bucket) :=
    Prod.ext rfl (Database.run_onlyReads (installation.migrator.onlyReads_plan target) _)
  have told := run_isUpdating (tables.ensure bucket)
  rw [Storage.entry_congr same] at looked told
  rw [survey, run_of_prepared rfl]
  apply (Action.fst_run_bind (Action.run_withError looked _) _).trans
  refine congrArg _ (funext fun record => ?_)
  apply (Action.fst_run_bind (Action.run_withError planned _) _).trans
  refine congrArg _ (funext fun planned => ?_)
  exact Action.fst_run_bind (Action.run_withError told _) _

theorem surveys (installation : Installation) (target : String) (tables : Buckets String) :
    Surveys tables target ((installation.survey target).run Database.tablesBackend tables).1 := by
  have same : Database.tablesStorage.objects (tables.ensure bucket) =
      Database.tablesStorage.objects tables := Buckets.read_ensure_eq tables bucket
  rw [fst_run_survey]
  cases recorded : Database.tablesStorage.entry VersionRecord.ofJson recordKey tables with
  | error error => exact .unreadable recorded
  | ok found =>
  cases valid : Version.read target with
  | error cause =>
      rw [Migrator.run_plan_of_invalid valid]
      exact .misnamed recorded valid
  | ok version =>
  have recordedThen := (Storage.entry_congr same _ _).trans recorded
  rcases Database.tablesStorage_faithful.plan_cases installation.migrator recordedThen valid with
    ⟨plannable, planned, made⟩ | ⟨unplannable, error, blameless, unmade⟩
  · have made : (installation.migrator.plan target).run Database.tablesBackend
        (tables.ensure bucket) = (.ok planned, _) := made
    rw [made]
    cases flagged : Database.tablesStorage.entry Json.decodeBool updatingKey tables with
    | error error => exact .unflagged valid flagged
    | ok flag =>
        exact .told recorded valid (fun unplannable => plannable (unplannable.congr same)) flagged
  · have unmade : (installation.migrator.plan target).run Database.tablesBackend
        (tables.ensure bucket) = (.error error, _) := unmade
    rw [unmade]
    exact .unplanned valid (unplannable.congr same.symm) blameless

end Installation

/-! ## Sites -/

/-- The call that makes sure of the bookkeeping bucket goes through on a database that was opened at
the site. -/
def Site.Prepares (site : Site) (opened : Database) : Prop :=
  (site.backend (.ensureBucket bucket) opened).1 = .ok ()

/-- The site that a status is told from. What the path leads to nothing at is taken for empty. -/
def Site.consulted (site : Site) : Site :=
  if site.isPresent then site else .transient

namespace Installation

variable {installation : Installation} {target : String} {site : Site} {opened : Database}

/-- For this there have to be tables that are not only to be read, and where no journal can be made
the bucket has to be there already. -/
theorem prepares_iff : site.Prepares opened ↔ opened.tables.isSome = true ∧
    site.refusal ≠ some .writes ∧ (site.refusal = some .changes → opened.stored.Has bucket) := by
  have made : (Database.backend (.ensureBucket bucket) opened).1 = .ok () ↔
      opened.tables.isSome = true := by
    refine ⟨isSome_of_prepared, fun there => ?_⟩
    rcases Option.isSome_iff_exists.mp there with ⟨tables, present⟩
    rw [Database.backend_of_tables present]
    rfl
  rw [Site.Prepares, Site.backend]
  cases site.refusal with
  | none => simp [made]
  | some refusal =>
      cases refusal with
      | writes => simp [Database.guardedBackend, Database.Refusal.refuses, Request.isWrite]
      | changes =>
          have refuses : Database.Refusal.changes.refuses opened (.ensureBucket bucket) = false ↔
              opened.stored.Has bucket := Option.isNone_eq_false_iff
          by_cases has : opened.stored.Has bucket
          · simp [Database.guardedBackend, refuses.mpr has, made, has]
          · simp [Database.guardedBackend, eq_true_of_ne_false (mt refuses.mp has), has]

theorem fst_run_of_prepares {action : Action ε β} (prepares : site.Prepares opened)
    (looks : action.KeepsTo LooksUp) :
    (action.run site.backend opened).1 = (action.run Database.tablesBackend opened.stored).1 := by
  rcases prepares_iff.mp prepares with ⟨there, granted, has⟩
  cases restricted : site.refusal with
  | none => exact fst_run_of_grants ⟨restricted, there⟩ action
  | some refusal =>
      cases refusal with
      | writes => exact absurd restricted granted
      | changes =>
          rcases Option.isSome_iff_exists.mp there with ⟨tables, present⟩
          have stored : opened.stored = tables := by rw [Database.stored, present]; rfl
          rw [stored]
          exact congrArg Prod.fst (run_of_looksUp present (has restricted) granted looks)

/-! ## What decides -/

/-- The store can be opened and prepared and there is no record in it that does not decode, but the
target is no version. -/
inductive Misnamed (installation : Installation) (target : String) (site : Site) : Prop
  | intro {opened : Database} {found : Option VersionRecord} {cause : VersionError}
      (opens : installation.openSite site = .ok opened) (prepares : site.Prepares opened)
      (readable : opened.texts.entry VersionRecord.ofJson recordKey = .ok found)
      (invalid : Version.read target = .error cause)

/-- The store cannot be opened or prepared, or there is a record in it that does not decode, or,
where the target is a version, no plan can be made or the flag does not decode. -/
inductive Fails (installation : Installation) (target : String) (site : Site) : Prop
  | unopened {failure : Failure} (closed : installation.openSite site = .error failure)
  | unprepared {opened : Database} (opens : installation.openSite site = .ok opened)
      (refuses : ¬ site.Prepares opened)
  | unreadable {opened : Database} {error : StoreError}
      (opens : installation.openSite site = .ok opened)
      (unread : opened.texts.entry VersionRecord.ofJson recordKey = .error error)
  | unplannable {opened : Database} {version : Version}
      (opens : installation.openSite site = .ok opened) (valid : Version.read target = .ok version)
      (unplannable : Database.tablesStorage.Unplannable opened.stored)
  | unflagged {opened : Database} {version : Version} {error : StoreError}
      (opens : installation.openSite site = .ok opened) (valid : Version.read target = .ok version)
      (unread : opened.texts.entry Json.decodeBool updatingKey = .error error)

theorem Misnamed.not_fails (misnamed : installation.Misnamed target site) :
    ¬ installation.Fails target site := by
  rcases misnamed with ⟨opens, prepares, readable, invalid⟩
  intro fails
  cases fails with
  | unopened closed => cases opens.symm.trans closed
  | unprepared opensToo refuses =>
      cases opens.symm.trans opensToo
      exact refuses prepares
  | unreadable opensToo unread =>
      cases opens.symm.trans opensToo
      cases readable.symm.trans unread
  | unplannable _ valid _ => cases invalid.symm.trans valid
  | unflagged _ valid _ => cases invalid.symm.trans valid

inductive Decides (installation : Installation) (target : String) (site : Site) :
    Except Failure α → Prop
  | misnamed {failure : Failure} (misnamed : installation.Misnamed target site)
      (blamed : failure.blamesTarget = true) : Decides installation target site (.error failure)
  | fails {failure : Failure} (fails : installation.Fails target site)
      (blameless : failure.blamesTarget = false) : Decides installation target site (.error failure)
  | told {result : α} (named : ¬ installation.Misnamed target site)
      (works : ¬ installation.Fails target site) : Decides installation target site (.ok result)

theorem Decides.map {result : Except Failure α} (decides : installation.Decides target site result)
    (change : α → β) : installation.Decides target site (result.map change) := by
  cases decides with
  | misnamed misnamed blamed => exact .misnamed misnamed blamed
  | fails fails blameless => exact .fails fails blameless
  | told named works => exact .told named works

theorem decides_of_unopened {failure : Failure}
    (unopened : installation.openSite site = .error failure) :
    installation.Decides target site (.error failure : Except Failure α) := by
  refine .fails (.unopened unopened) ?_
  have refused : ∀ refusal content, openDatabase refusal content = .error failure →
      failure.blamesTarget = false := by
    intro refusal content closed
    unfold openDatabase at closed
    split at closed
    · cases closed
      rfl
    split at closed
    · cases closed
      rfl
    split at closed
    · cases closed
    split at closed
    · cases closed
    · cases closed
      rfl
  rw [openSite] at unopened
  split at unopened
  · cases unopened
    rfl
  · cases unopened
    rfl
  · exact refused _ _ unopened
  · exact refused _ _ unopened

theorem decides_of_prepares (opens : installation.openSite site = .ok opened)
    (prepares : site.Prepares opened) :
    installation.Decides target site ((installation.survey target).run site.backend opened).1 := by
  rw [fst_run_of_prepares prepares (looksUp_survey target)]
  have surveys := surveys installation target opened.stored
  generalize ((installation.survey target).run Database.tablesBackend opened.stored).1 = result
    at surveys
  cases surveys with
  | unreadable unread => exact .fails (.unreadable opens unread) rfl
  | misnamed readable invalid => exact .misnamed (.intro opens prepares readable invalid) rfl
  | unplanned valid unplannable blameless =>
      exact .fails (.unplannable opens valid unplannable) blameless
  | unflagged valid unread => exact .fails (.unflagged opens valid unread) rfl
  | told readable valid plannable flagged =>
      apply Decides.told
      · rintro ⟨_, _, _, invalid⟩
        cases invalid.symm.trans valid
      intro fails
      cases fails with
      | unopened closed => cases opens.symm.trans closed
      | unprepared opensToo refuses =>
          cases opens.symm.trans opensToo
          exact refuses prepares
      | unreadable opensToo unread =>
          cases opens.symm.trans opensToo
          cases unread.symm.trans readable
      | unplannable opensToo _ unplannable =>
          cases opens.symm.trans opensToo
          exact plannable unplannable
      | unflagged opensToo _ unread =>
          cases opens.symm.trans opensToo
          cases unread.symm.trans flagged

theorem decides_of_opens (opens : installation.openSite site = .ok opened) :
    installation.Decides target site ((installation.survey target).run site.backend opened).1 := by
  cases granted : (site.backend (.ensureBucket bucket) opened).1 with
  | ok answer => exact decides_of_prepares opens granted
  | error cause =>
      have refuses : ¬ site.Prepares opened := by
        rw [Site.Prepares, granted]
        intro impossible
        cases impossible
      have ensures := runs_prepare site.backend opened
      rw [granted] at ensures
      rw [survey, Action.run_bind_of_error ensures.run_eq]
      exact .fails (.unprepared opens refuses) rfl

/-- A status fails for the reasons that there are, and it is put down to the target where the
target is the only one. -/
theorem decides (installation : Installation) (target : String) (site : Site) :
    installation.Decides target site.consulted (installation.status target site).1 := by
  rw [status, Site.consulted]
  split
  · rw [visit]
    cases opens : installation.openSite site with
    | error failure => exact decides_of_unopened opens
    | ok opened => exact (decides_of_opens opens).map _
  · rw [perform, visit]
    cases opens : installation.openSite .transient with
    | error failure => exact decides_of_unopened opens
    | ok opened => exact (decides_of_opens opens).map _

end Installation

end StoreMigration
