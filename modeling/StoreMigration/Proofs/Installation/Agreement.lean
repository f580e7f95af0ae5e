import StoreMigration.Disk.Opening
import StoreMigration.Proofs.Installation.Flag
import StoreMigration.Proofs.Migration.DryRun
import StoreMigration.Proofs.Version.RoundTrip

/-! What an installation answers about a target. A dry run says what a migration that succeeds
then does. The status is asked of an empty database wherever the text of the path leads to
nothing, so it agrees with the dry run exactly where the text leads to something or what is
opened by it is a new installation. -/

namespace StoreMigration

open Bookkeeping

theorem Site.run_onlyReads (site : Site) {action : Action ε β} (reads : action.OnlyReads)
    (database : Database) : (action.run site.backend database).2 = database := by
  have kept : ∀ request reached, request.isWrite = false → reached = database →
      (site.backend request reached).2 = database := by
    rintro request _ harmless rfl
    rw [backend]
    cases site.refusal with
    | some refusal => exact Database.guardedBackend_fixed refusal request _
    | none =>
        apply Database.backend_fixed
        cases request with
        | get bucket key => rfl
        | listKeys bucket => rfl
        | ensureBucket bucket => cases harmless
        | update bucket key value => cases harmless
        | delete bucket key => cases harmless
  exact ((Action.Runs.total site.backend action database).preserved reads kept rfl).2

namespace Installation

variable {installation : Installation} {target : String} {site : Site}

/-! ## Actions -/

section Actions

variable {backend : Backend σ} {state after : σ} {history : List (Exchange σ)}

/-- Nothing comes of an action unless the bucket is there or can be made. -/
theorem granted_of_ok {action : Unit → Action Failure β} {result : β}
    (ran : ((Installation.prepare >>= action).run backend state).1 = .ok result) :
    (backend (.ensureBucket bucket) state).1 = .ok () := by
  cases granted : (backend (.ensureBucket bucket) state).1 with
  | ok answer => rfl
  | error cause =>
      have ensures := runs_prepare backend state
      rw [granted] at ensures
      rw [Action.run_bind_of_error ensures.run_eq action] at ran
      cases ran

theorem run_plannedMigration (granted : (backend (.ensureBucket bucket) state).1 = .ok ()) :
    ((installation.plannedMigration target).run backend state).1 =
      (((installation.migrator.plan target).run backend
        (backend (.ensureBucket bucket) state).2).1.mapError (.ofMigration (.planning target))).map
          .ofPlan := by
  rcases ran : (installation.migrator.plan target).run backend
    (backend (.ensureBucket bucket) state).2 with ⟨outcome, reached⟩
  have told := Action.run_withError ran (Failure.ofMigration (.planning target))
  rw [plannedMigration, run_of_prepared granted]
  cases outcome with
  | ok planned => exact congrArg Prod.fst (Action.run_bind_of_ok told _)
  | error error => exact congrArg Prod.fst (Action.run_bind_of_error told _)

theorem planned_of_dryRun {summary : MigrationSummary}
    (ran : ((installation.plannedMigration target).run backend state).1 = .ok summary) :
    ∃ planned, summary = .ofPlan planned ∧ ((installation.migrator.plan target).run backend
      (backend (.ensureBucket bucket) state).2).1 = .ok planned := by
  rw [run_plannedMigration (granted_of_ok ran)] at ran
  cases planned : ((installation.migrator.plan target).run backend
      (backend (.ensureBucket bucket) state).2).1 with
  | error error =>
      rw [planned] at ran
      cases ran
  | ok outcome =>
      rw [planned] at ran
      cases ran
      exact ⟨outcome, rfl, rfl⟩

theorem planned_of_survey {surveyed : Option VersionRecord × PlanOutcome × Bool}
    (unmoved : ∀ {ε β : Type} {action : Action ε β}, action.OnlyReads → ∀ reached,
      (action.run backend reached).2 = reached)
    (ran : ((installation.survey target).run backend state).1 = .ok surveyed) :
    ((installation.migrator.plan target).run backend
      (backend (.ensureBucket bucket) state).2).1 = .ok surveyed.2.1 := by
  have granted := granted_of_ok ran
  rw [survey, run_of_prepared granted] at ran
  have runs : Action.Runs backend _ _ (.ok surveyed) _ _ := ⟨Prod.ext ran rfl, rfl⟩
  rcases runs.bind_cases with ⟨_, _, impossible⟩ | ⟨record, _, middle, _, look, onceLooked, _⟩
  · cases impossible
  have reads : (record?.withError (Failure.ofStore .readingRecord)).OnlyReads :=
    Action.keepsTo_withError _ (Action.onlyReads_getAs VersionRecord.ofJson recordKey)
  have same := unmoved reads (backend (.ensureBucket bucket) state).2
  rw [look.run_eq] at same
  subst same
  rcases onceLooked.bind_cases with ⟨_, _, impossible⟩ | ⟨planned, _, _, _, make, onceMade, _⟩
  · cases impossible
  rcases onceMade.bind_cases with ⟨_, _, impossible⟩ | ⟨updating, _, _, _, _, last, _⟩
  · cases impossible
  rcases last.unique (.pure _ _) with ⟨told, _, _⟩
  cases told
  exact congrArg Prod.fst make.ok_of_withError.run_eq

end Actions

/-! ## Dry runs and migrations -/

theorem isSome_of_prepared {opened : Database}
    (prepared : (Database.backend (.ensureBucket bucket) opened).1 = .ok ()) :
    opened.tables.isSome = true := by
  cases present : opened.tables with
  | some tables => rfl
  | none =>
      rw [Database.backend_of_missing present] at prepared
      cases prepared

theorem grants_of_completed {opened : Database} {done : MigrationSummary}
    (ran : ((installation.completedMigration target).run site.backend opened).1 = .ok done) :
    site.Grants opened := by
  have prepared := granted_of_ok ran
  rcases went : (installation.migrator.run target).run site.backend
    (site.backend (.ensureBucket bucket) opened).2 with ⟨outcome, final⟩
  rw [run_completedMigration site.run_onlyReads prepared went] at ran
  cases outcome with
  | error error => cases ran
  | ok migrated =>
      rcases Migrator.ran_of_ok went with ⟨middle, completed⟩
      rw [← site.backend_storage] at completed
      rcases Registry.finished_of_ok completed with ⟨_, _, _, _, _, _, begun, _⟩
      have raised := begun.raised
      rw [site.backend_storage] at raised
      have unrestricted : site.refusal = none := by
        cases restricted : site.refusal with
        | none => rfl
        | some refusal =>
            have refused : refusal.refuses middle (flagRequest true) = true := by
              cases refusal <;> rfl
            rw [Site.backend, restricted] at raised
            simp only [Database.guardedBackend, refused, if_true] at raised
            cases raised
      rw [Site.backend, unrestricted] at prepared
      exact ⟨unrestricted, isSome_of_prepared prepared⟩

theorem fst_run_of_grants {opened : Database} (grants : site.Grants opened)
    (action : Action ε β) :
    (action.run site.backend opened).1 = (action.run Database.tablesBackend opened.stored).1 :=
  congrArg Prod.fst (Site.run_of_grants grants action.toProgram)

/-- A migration that succeeds was foretold by a dry run. -/
theorem foretold_of_completed {opened : Database} {done : MigrationSummary}
    (ran : ((installation.completedMigration target).run site.backend opened).1 = .ok done) :
    ∃ planned count,
      ((installation.plannedMigration target).run site.backend opened).1 = .ok planned ∧
      done = { planned with completion := some ⟨planned.pendingSteps, count⟩ } := by
  have grants := grants_of_completed ran
  rw [fst_run_of_grants grants] at ran ⊢
  rcases went : (installation.migrator.run target).run Database.tablesBackend
    (Database.tablesBackend (.ensureBucket bucket) opened.stored).2 with ⟨outcome, final⟩
  rw [run_completedMigration Database.run_onlyReads rfl went] at ran
  cases outcome with
  | error error => cases ran
  | ok migrated =>
      rcases Database.tablesStorage_faithful.foretold went with ⟨planned, made, rfl⟩
      have foretold : (installation.migrator.plan target).run Database.tablesBackend
          (Database.tablesBackend (.ensureBucket bucket) opened.stored).2 = (.ok planned, _) := made
      rw [foretold] at ran
      cases ran
      refine ⟨.ofPlan planned, planned.plan.replayCount, ?_, rfl⟩
      rw [run_plannedMigration rfl, foretold]
      rfl

/-- A migration that could be planned fails in a step if it fails at all. -/
theorem carriedOut_of_planned {opened : Database} {planned : MigrationSummary}
    {residue : Option Json} (unrestricted : site.refusal = none)
    (legible : Database.tablesStorage.read opened.stored bucket Legacy.versionKey = .ok residue)
    (ran : ((installation.plannedMigration target).run site.backend opened).1 = .ok planned) :
    (∃ done, ((installation.completedMigration target).run site.backend opened).1 = .ok done) ∨
      ∃ name cause, ((installation.completedMigration target).run site.backend opened).1 =
        .error (.ofMigration (.migrating target) (.stepFailed name cause)) := by
  have prepared := granted_of_ok ran
  rw [Site.backend, unrestricted] at prepared
  have grants : site.Grants opened := ⟨unrestricted, isSome_of_prepared prepared⟩
  rw [fst_run_of_grants grants] at ran ⊢
  rcases planned_of_dryRun ran with ⟨outcome, _, made⟩
  have legibleThen : Database.tablesStorage.read (opened.stored.ensure bucket) bucket
      Legacy.versionKey = .ok residue := by
    rw [← legible]
    exact Database.tablesStorage.read_congr
      (congrFun (congrFun (Buckets.read_ensure_eq opened.stored bucket) bucket) Legacy.versionKey)
  rcases Database.tablesStorage_faithful.carriedOut (Prod.ext made rfl) legibleThen with
    ⟨migrated, final, went⟩ | ⟨name, cause, final, went⟩
  · rw [run_completedMigration Database.run_onlyReads rfl went]
    exact .inl ⟨_, rfl⟩
  · rw [run_completedMigration Database.run_onlyReads rfl went]
    exact .inr ⟨name, cause, rfl⟩

/-! ## The status -/

theorem fst_migrate_of_opens {opened : Database} (opens : installation.openSite site = .ok opened)
    (dryRun : Bool) :
    (installation.migrate target dryRun site).1 =
      ((if dryRun then installation.plannedMigration target
        else installation.completedMigration target).run site.backend opened).1 := by
  rw [migrate, perform, visit, opens]

theorem opens_of_migrated {dryRun : Bool} {summary : MigrationSummary}
    (answered : (installation.migrate target dryRun site).1 = .ok summary) :
    ∃ opened, installation.openSite site = .ok opened := by
  cases opens : installation.openSite site with
  | ok opened => exact ⟨opened, rfl⟩
  | error failure =>
      rw [migrate, perform, visit, opens] at answered
      cases answered

theorem status_of_present {report : StatusReport} {planned : MigrationSummary}
    (present : site.isPresent = true)
    (answered : (installation.status target site).1 = .ok report)
    (dryRun : (installation.migrate target true site).1 = .ok planned) :
    report.target = planned.targetVersion ∧ report.source = planned.source ∧
      report.isUpToDate = planned.isUpToDate ∧ report.pendingSteps = planned.pendingSteps := by
  rcases opens_of_migrated dryRun with ⟨opened, opens⟩
  rw [fst_migrate_of_opens opens] at dryRun
  rcases planned_of_dryRun dryRun with ⟨outcome, rfl, made⟩
  rw [status, if_pos present, visit, opens] at answered
  rcases surveyed : (installation.survey target).run site.backend opened with ⟨result, after⟩
  simp only [surveyed] at answered
  cases result with
  | error failure => cases answered
  | ok survey =>
      cases answered
      have madeToo := planned_of_survey site.run_onlyReads (congrArg Prod.fst surveyed)
      cases made.symm.trans madeToo
      exact ⟨rfl, rfl, rfl, rfl⟩

def freshPlan (installation : Installation) (version : Version) : Except MigrationError Plan :=
  Plan.ofRecord installation.migrator.registry
    (.fresh version installation.edition installation.newInstanceId) version

theorem toVersion_of_ofRecord {registry : Registry} {record : VersionRecord} {version : Version}
    {plan : Plan} (planned : Plan.ofRecord registry record version = .ok plan) :
    plan.toVersion = version := by
  rcases Registry.parsed_of_ofRecord planned with ⟨stored, _, rfl⟩
  rfl

theorem planned_of_plan {backend : Backend σ} {state : σ} {planned : PlanOutcome}
    (made : ((installation.migrator.plan target).run backend state).1 = .ok planned) :
    Version.read target = .ok planned.plan.toVersion ∧
      (planned.source = .freshInstall →
        installation.freshPlan planned.plan.toVersion = .ok planned.plan) := by
  rcases Migrator.started_of_plan ⟨Prod.ext made rfl, rfl⟩ with
    ⟨version, record, _, _, valid, started, planned_eq⟩
  have same := toVersion_of_ofRecord planned_eq
  subst same
  refine ⟨valid, fun fresh => ?_⟩
  rw [fresh] at started
  cases Migrator.fresh_of_started started
  exact planned_eq

theorem isUpToDate_of_fresh {planned : PlanOutcome} (fresh : planned.source = .freshInstall) :
    planned.isUpToDate = false := by
  simp [PlanOutcome.isUpToDate, fresh]

/-- What is opened for the status of a database that is not there. -/
def blankOpened : Database := ⟨[1], some Buckets.empty, .rollback⟩

theorem source_of_blank {planned : PlanOutcome}
    (made : ((installation.migrator.plan target).run Database.tablesBackend
      (Buckets.empty.ensure bucket)).1 = .ok planned) : planned.source = .freshInstall := by
  rcases Migrator.started_of_plan ⟨Prod.ext made rfl, rfl⟩ with ⟨version, record, _, _, _, started, _⟩
  have absent : ∀ key, Database.tablesStorage.objects (Buckets.empty.ensure bucket) bucket key = none :=
    fun key => congrFun (congrFun (Buckets.read_ensure_eq Buckets.empty bucket) bucket) key
  have starts : Database.tablesStorage.StartsFrom installation.migrator version
      (Buckets.empty.ensure bucket) planned.source record := Storage.startsFrom_of_started started
  generalize planned.source = source at starts
  cases starts with
  | existing recorded =>
      cases recorded.symm.trans (Storage.entry_of_absent VersionRecord.ofJson (absent recordKey))
  | legacy _ has =>
      rcases has with ⟨numbered, _, _, _⟩
      cases numbered.symm.trans (Storage.entry_of_absent Json.decodeInt64 (absent Legacy.versionKey))
  | fresh _ _ => rfl

theorem status_of_absent {report : StatusReport} (absent : site.isPresent = false)
    (answered : (installation.status target site).1 = .ok report) :
    Version.read target = .ok report.target ∧ report.source = .freshInstall ∧
      report.isUpToDate = false ∧ ∃ plan, installation.freshPlan report.target = .ok plan ∧
        report.pendingSteps = plan.pendingSteps := by
  have opens : installation.openSite Site.transient = .ok blankOpened := rfl
  rw [status, absent, if_neg Bool.false_ne_true, perform, visit, opens] at answered
  rcases surveyed : (installation.survey target).run Site.transient.backend blankOpened with
    ⟨result, after⟩
  simp only [surveyed] at answered
  cases result with
  | error failure => cases answered
  | ok survey =>
      rcases survey with ⟨record, planned, updating⟩
      cases answered
      have made := planned_of_survey Site.transient.run_onlyReads (congrArg Prod.fst surveyed)
      have grants : Site.transient.Grants (Site.transient.backend (.ensureBucket bucket)
          blankOpened).2 := ⟨rfl, rfl⟩
      rw [fst_run_of_grants grants] at made
      rcases planned_of_plan made with ⟨valid, fresh⟩
      have source := source_of_blank made
      exact ⟨valid, source, isUpToDate_of_fresh source, planned.plan, fresh source, rfl⟩

/-! ## Agreement -/

def Legible (installation : Installation) (site : Site) : Prop :=
  ∀ opened, installation.openSite site = .ok opened →
    ∀ key, ∃ found, Database.tablesStorage.read opened.stored bucket key = .ok found

/-- How far the dry run, the migration and the status agree about a target at a site. -/
structure Agrees (installation : Installation) (target : String) (site : Site) : Prop where
  foretold : ∀ done, (installation.migrate target false site).1 = .ok done →
    ∃ planned count, (installation.migrate target true site).1 = .ok planned ∧
      done = { planned with completion := some ⟨planned.pendingSteps, count⟩ }
  same_target : ∀ planned report, (installation.migrate target true site).1 = .ok planned →
    (installation.status target site).1 = .ok report → report.target = planned.targetVersion
  same_plan_iff : ∀ planned report, (installation.migrate target true site).1 = .ok planned →
    (installation.status target site).1 = .ok report →
      ((report.source = planned.source ∧ report.isUpToDate = planned.isUpToDate ∧
          report.pendingSteps = planned.pendingSteps) ↔
        (site.isPresent = true ∨ planned.source = .freshInstall))
  carried_out : ∀ planned, (installation.migrate target true site).1 = .ok planned →
    site.refusal = none → installation.Legible site →
      (∃ done, (installation.migrate target false site).1 = .ok done) ∨
        ∃ name cause, (installation.migrate target false site).1 =
          .error (.ofMigration (.migrating target) (.stepFailed name cause))

theorem fresh_of_dryRun {planned : MigrationSummary}
    (dryRun : (installation.migrate target true site).1 = .ok planned) :
    Version.read target = .ok planned.targetVersion ∧
      (planned.source = .freshInstall → planned.isUpToDate = false ∧
        ∃ plan, installation.freshPlan planned.targetVersion = .ok plan ∧
          planned.pendingSteps = plan.pendingSteps) := by
  rcases opens_of_migrated dryRun with ⟨opened, opens⟩
  rw [fst_migrate_of_opens opens] at dryRun
  rcases planned_of_dryRun dryRun with ⟨outcome, rfl, made⟩
  rcases planned_of_plan made with ⟨valid, freshly⟩
  exact ⟨valid, fun fresh => ⟨isUpToDate_of_fresh fresh, outcome.plan, freshly fresh, rfl⟩⟩

theorem same_plan_of_absent {planned : MigrationSummary} {report : StatusReport}
    (absent : site.isPresent = false)
    (dryRun : (installation.migrate target true site).1 = .ok planned)
    (answered : (installation.status target site).1 = .ok report) :
    report.target = planned.targetVersion ∧
      ((report.source = planned.source ∧ report.isUpToDate = planned.isUpToDate ∧
        report.pendingSteps = planned.pendingSteps) ↔ planned.source = .freshInstall) := by
  rcases status_of_absent absent answered with ⟨valid, source, behind, plan, made, pending⟩
  rcases fresh_of_dryRun dryRun with ⟨validToo, freshly⟩
  have same : report.target = planned.targetVersion := Except.ok.inj (valid.symm.trans validToo)
  refine ⟨same, ?_⟩
  constructor
  · rintro ⟨sameSource, _, _⟩
    exact sameSource.symm.trans source
  · intro fresh
    rcases freshly fresh with ⟨behindToo, other, madeToo, pendingToo⟩
    rw [same] at made
    cases made.symm.trans madeToo
    exact ⟨source.trans fresh.symm, behind.trans behindToo.symm, pending.trans pendingToo.symm⟩

theorem agrees (installation : Installation) (target : String) (site : Site) :
    installation.Agrees target site := by
  constructor
  · intro done answered
    rcases opens_of_migrated answered with ⟨opened, opens⟩
    rw [fst_migrate_of_opens opens] at answered
    rw [fst_migrate_of_opens opens]
    exact foretold_of_completed answered
  · intro planned report dryRun answered
    by_cases present : site.isPresent = true
    · exact (status_of_present present answered dryRun).1
    · exact (same_plan_of_absent (Bool.eq_false_iff.mpr present) dryRun answered).1
  · intro planned report dryRun answered
    by_cases present : site.isPresent = true
    · have same := (status_of_present present answered dryRun).2
      exact iff_of_true same (.inl present)
    · rw [or_iff_right present]
      exact (same_plan_of_absent (Bool.eq_false_iff.mpr present) dryRun answered).2
  · intro planned dryRun unrestricted legible
    rcases opens_of_migrated dryRun with ⟨opened, opens⟩
    rw [fst_migrate_of_opens opens] at dryRun
    rw [fst_migrate_of_opens opens]
    rcases legible opened opens Legacy.versionKey with ⟨residue, known⟩
    exact carriedOut_of_planned unrestricted known dryRun

/-! ## Two paths to one database -/

theorem ok_of_toOption {result : Except ε β} {value : β} (known : result.toOption = some value) :
    result = .ok value := by
  cases result with
  | ok found => exact congrArg Except.ok (Option.some.inj known)
  | error error => cases known

theorem openSite_recordedAs (installation : Installation) (stored : Json) :
    installation.openSite (siteOf (recordedAs stored)) = .ok (recordedAs stored) := rfl

theorem legible_recordedAs (installation : Installation) (record : VersionRecord) :
    installation.Legible (siteOf (recordedAs record.toJson)) := by
  intro opened opens key
  cases (openSite_recordedAs installation record.toJson).symm.trans opens
  by_cases same : key = recordKey
  · subst same
    have stored : Database.tablesStorage.objects (recordedAs record.toJson).stored bucket recordKey =
        some (Database.tablesStorage.encode record.toJson) := Buckets.read_write_same _ _ _ _
    exact Storage.read_of_entry (Storage.entry_of_recorded stored)
  · have absent : Database.tablesStorage.objects (recordedAs record.toJson).stored bucket key = none :=
      Buckets.read_write_of_ne Buckets.empty record.toJson.compact (.inr same)
    exact Storage.read_of_entry (Storage.entry_of_absent VersionRecord.ofJson absent)

def behind : VersionRecord := ⟨"2.14.0", 1, ⟨1⟩, "01J0000000000000000000000A"⟩

theorem agrees_behind :
    ∃ done planned report,
      (sample.migrate "2.16.0" false (siteOf (recordedAs behind.toJson))).1 = .ok done ∧
      (sample.migrate "2.16.0" true (siteOf (recordedAs behind.toJson))).1 = .ok planned ∧
      (sample.status "2.16.0" (siteOf (recordedAs behind.toJson))).1 = .ok report ∧
      sample.Legible (siteOf (recordedAs behind.toJson)) ∧
      sample.Agrees "2.16.0" (siteOf (recordedAs behind.toJson)) := by
  have agreed := agrees sample "2.16.0" (siteOf (recordedAs behind.toJson))
  have completed : (sample.migrate "2.16.0" false
      (siteOf (recordedAs behind.toJson))).1.toOption.isSome = true := by decide +kernel
  have answered : (sample.status "2.16.0"
      (siteOf (recordedAs behind.toJson))).1.toOption.isSome = true := by decide +kernel
  rcases Option.isSome_iff_exists.mp completed with ⟨done, completed⟩
  rcases Option.isSome_iff_exists.mp answered with ⟨report, answered⟩
  have migrated := ok_of_toOption completed
  rcases agreed.foretold done migrated with ⟨planned, _, dryRun, _⟩
  exact ⟨done, planned, report, migrated, dryRun, ok_of_toOption answered,
    legible_recordedAs sample behind, agreed⟩

/-- The path takes a step back from a directory that is not there. -/
def steppedBack : Installation := ⟨"nosub/../kvmigrate.sqlite3", ⟨1⟩, "01J0000000000000000000000B"⟩

def homeDisk : Disk :=
  ⟨["home"], [(["home"], .directory),
    (["home", "kvmigrate.sqlite3"], .database (recordedAs behind.toJson))]⟩

/-- The dry run finds the database that is there, and the status does not. -/
theorem disagrees_steppedBack :
    ∃ planned report,
      (steppedBack.migrate "2.16.0" true (homeDisk.site steppedBack.path)).1 = .ok planned ∧
      (steppedBack.status "2.16.0" (homeDisk.site steppedBack.path)).1 = .ok report ∧
      planned.source = .existing ∧ planned.pendingSteps = ["migrate_db_to_60"] ∧
      report.source = .freshInstall ∧ report.pendingSteps = [] := by
  have dryRun : ((steppedBack.migrate "2.16.0" true (homeDisk.site
      steppedBack.path)).1.toOption.map fun planned => (planned.source, planned.pendingSteps)) =
        some (.existing, ["migrate_db_to_60"]) := by decide +kernel
  have answered : ((steppedBack.status "2.16.0" (homeDisk.site
      steppedBack.path)).1.toOption.map fun report => (report.source, report.pendingSteps)) =
        some (.freshInstall, []) := by decide +kernel
  rcases Option.map_eq_some_iff.mp dryRun with ⟨planned, made, told⟩
  rcases Option.map_eq_some_iff.mp answered with ⟨report, found, toldToo⟩
  exact ⟨planned, report, ok_of_toOption made, ok_of_toOption found,
    congrArg Prod.fst told, congrArg Prod.snd told, congrArg Prod.fst toldToo,
    congrArg Prod.snd toldToo⟩

end Installation

end StoreMigration
