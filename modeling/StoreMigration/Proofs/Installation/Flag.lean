import StoreMigration.Proofs.Migration.Bootstrap
import StoreMigration.Proofs.Migration.Transforms
import StoreMigration.Proofs.Store.Tables
import StoreMigration.Service.Basic

/-! What a migration that fails leaves of an installation. The flag is up afterwards if it
was before, or if the database takes changes and held something to start from; else every
object is as it was, and nothing tells of the failure. -/

namespace StoreMigration

open Bookkeeping

namespace Database

def Flagged (database : Database) : Prop :=
  tablesStorage.IsUpdating database.stored

def Startable (database : Database) : Prop :=
  tablesStorage.Startable database.stored

theorem flagged_congr {left right : Database} (same : left.texts = right.texts) :
    left.Flagged ↔ right.Flagged := by
  have alike := congrFun (congrFun same bucket) updatingKey
  exact ⟨Storage.isUpdating_congr alike.symm, Storage.isUpdating_congr alike⟩

theorem run_onlyReads {action : Action ε β} (reads : action.OnlyReads) (tables : Buckets String) :
    (action.run tablesBackend tables).2 = tables :=
  tablesStorage_faithful.run_onlyReads reads tables

/-! ## Layouts -/

theorem mem_recordLayout {version other : Int} {layouts : List Int} :
    other ∈ recordLayout version layouts ↔ other = version ∨ other ∈ layouts := by
  induction layouts with
  | nil => simp [recordLayout]
  | cons recorded rest induction =>
      rw [recordLayout]
      split
      · next same => simp [same]
      · split
        · rw [List.mem_cons]
        · rw [List.mem_cons, induction, List.mem_cons]
          exact or_left_comm

theorem le_currentLayout {database : Database} {layout : Int} (member : layout ∈ database.layouts) :
    layout ≤ database.currentLayout := by
  rw [currentLayout]
  cases greatest : database.layouts.max? with
  | none =>
      rw [List.max?_eq_none_iff.mp greatest] at member
      cases member
  | some layouts => exact (List.max?_eq_some_iff.mp greatest).2 layout member

theorem currentLayout_of_migrated {database opened : Database}
    (migrated : database.migrateLayout = .ok opened) : opened.currentLayout = latestLayout := by
  have latest : latestLayout = 1 := rfl
  rw [migrateLayout] at migrated
  split at migrated
  · cases migrated
  · split at migrated
    · next older =>
        cases migrated
        have greatest : (recordLayout 1 database.layouts).max? = some 1 := by
          rw [List.max?_eq_some_iff]
          refine ⟨mem_recordLayout.mpr (.inl rfl), ?_⟩
          intro layout member
          rcases mem_recordLayout.mp member with rfl | member
          · exact Int.le_refl 1
          · have below := le_currentLayout member
            omega
        rw [currentLayout, greatest]
        rfl
    · cases migrated
      omega

theorem migrateLayout_of_current {database : Database}
    (current : database.currentLayout = latestLayout) : database.migrateLayout = .ok database := by
  rw [migrateLayout, current, if_neg (by decide), if_neg (by decide)]

end Database

/-- What is opened at the site is found there again. -/
def Site.Keeps (site : Site) : Prop :=
  (∃ content, site.ground = .database content) ∧ (site.isPresent || site.isReached) = true

theorem Service.ready_iff (service : Service) (site : Site) :
    (service.respond "GET" "/v1/ready" site).1.status = 503 ↔
      (service.installation.isUpdating site).1 = .ok true := by
  have routed : (service.respond "GET" "/v1/ready" site).1 =
      answerReady (service.installation.isUpdating site).1 := rfl
  rw [routed]
  cases (service.installation.isUpdating site).1 with
  | error failure => simp [answerReady, refusal]
  | ok updating => cases updating <;> simp [answerReady, refusal, success]

namespace Installation

variable {installation : Installation} {site : Site} {opened : Database} {target : String}

/-! ## Opening -/

theorem openDatabase_unrestricted (content : Database) :
    openDatabase none content =
      content.migrateLayout.mapError fun unsupported => .of (.unsupportedLayout unsupported.version) := by
  cases migrated : content.migrateLayout <;> simp [openDatabase, migrated, Except.mapError]

theorem currentLayout_of_opened (unrestricted : site.refusal = none)
    (opens : installation.openSite site = .ok opened) :
    opened.currentLayout = Database.latestLayout := by
  have layoutUpToDate : ∀ content, openDatabase none content = .ok opened →
      opened.currentLayout = Database.latestLayout := by
    intro content opens
    rw [openDatabase_unrestricted] at opens
    apply Database.currentLayout_of_migrated
    cases migrated : content.migrateLayout with
    | error unsupported =>
        rw [migrated] at opens
        cases opens
    | ok brought =>
        rw [migrated] at opens
        cases opens
        rfl
  rw [openSite] at opens
  split at opens
  · cases opens
  · cases opens
  · rw [unrestricted] at opens
    exact layoutUpToDate _ opens
  · rw [unrestricted] at opens
    exact layoutUpToDate _ opens

theorem openDatabase_of_current {content : Database}
    (current : content.currentLayout = Database.latestLayout) :
    openDatabase none content = .ok content := by
  rw [openDatabase_unrestricted, Database.migrateLayout_of_current current]
  rfl

/-! ## Asking for the flag -/

theorem runs_prepare (backend : Backend σ) (state : σ) :
    Installation.prepare.Runs backend state
      ((backend (.ensureBucket bucket) state).1.mapError fun cause => Failure.of (.store cause))
      [backend.exchange (.ensureBucket bucket) state] (backend (.ensureBucket bucket) state).2 :=
  (Action.Runs.request (.ensureBucket bucket) state).withError _

theorem run_of_prepared {backend : Backend σ} {state : σ}
    (granted : (backend (.ensureBucket bucket) state).1 = .ok ()) (rest : Unit → Action Failure β) :
    (Installation.prepare >>= rest).run backend state =
      (rest ()).run backend (backend (.ensureBucket bucket) state).2 := by
  have ensures := runs_prepare backend state
  rw [granted] at ensures
  exact Action.run_bind_of_ok ensures.run_eq rest

theorem run_isUpdating (tables : Buckets String) :
    Bookkeeping.isUpdating.run Database.tablesBackend tables =
      ((Database.tablesStorage.entry Json.decodeBool updatingKey tables).map (·.getD false),
        tables) := by
  have looked := Database.tablesStorage_faithful.run_getAs Json.decodeBool updatingKey tables
  cases known : Database.tablesStorage.entry Json.decodeBool updatingKey tables with
  | error error =>
      rw [known] at looked
      exact Action.run_bind_of_error looked _
  | ok found =>
      rw [known] at looked
      exact Action.run_bind_of_ok looked _

theorem run_readFlag (tables : Buckets String) :
    readFlag.run Database.tablesBackend tables =
      (((Database.tablesStorage.entry Json.decodeBool updatingKey tables).map (·.getD false)).mapError
        (.ofStore .readingFlag), tables.ensure bucket) := by
  have told := run_isUpdating (tables.ensure bucket)
  rw [Storage.entry_congr (Buckets.read_ensure_eq tables bucket)] at told
  exact (run_of_prepared rfl _).trans (Action.run_withError told (Failure.ofStore .readingFlag))

theorem isUpdating_iff {database : Database} (opens : installation.openSite site = .ok database)
    (grants : site.Grants database) (present : site.isPresent = true) :
    (installation.isUpdating site).1 = .ok true ↔ database.Flagged := by
  have answered : (installation.isUpdating site).1 =
      (readFlag.run Database.tablesBackend database.stored).1 := by
    rw [isUpdating, ask, if_pos present, perform, visit, opens]
    exact congrArg Prod.fst (Site.run_of_grants grants readFlag.toProgram)
  rw [answered, run_readFlag, Database.Flagged, Storage.isUpdating_iff_entry]
  cases Database.tablesStorage.entry Json.decodeBool updatingKey database.stored with
  | error error => simp [Except.map, Except.mapError]
  | ok found => cases found <;> simp [Except.map, Except.mapError]

/-! ## Migrations that fail -/

theorem run_completedMigration {backend : Backend σ} {state : σ}
    (unmoved : ∀ {ε β : Type} {action : Action ε β}, action.OnlyReads → ∀ reached,
      (action.run backend reached).2 = reached)
    (granted : (backend (.ensureBucket bucket) state).1 = .ok ())
    {outcome : Except MigrationError MigrationOutcome} {final : σ}
    (ran : (installation.migrator.run target).run backend (backend (.ensureBucket bucket) state).2 =
      (outcome, final)) :
    (installation.completedMigration target).run backend state =
      ((outcome.mapError (.ofMigration (.migrating target))).map
        (.ofRun ((installation.migrator.plan target).run backend
          (backend (.ensureBucket bucket) state).2).1), final) := by
  have planned : (installation.migrator.plan target).run backend
      (backend (.ensureBucket bucket) state).2 = (_, (backend (.ensureBucket bucket) state).2) :=
    Prod.ext rfl (unmoved (installation.migrator.onlyReads_plan target) _)
  have told := Action.run_withError ran (Failure.ofMigration (.migrating target))
  apply (run_of_prepared granted _).trans
  apply (Action.run_bind_of_ok (Action.run_attempt planned) _).trans
  cases outcome with
  | ok migrated => exact Action.run_bind_of_ok told _
  | error error => exact Action.run_bind_of_error told _

theorem run_of_completedMigration {tables final : Buckets String} {failure : Failure}
    (ran : (installation.completedMigration target).run Database.tablesBackend tables =
      (.error failure, final)) :
    ∃ error, (installation.migrator.run target).run Database.tablesBackend (tables.ensure bucket) =
      (.error error, final) := by
  rcases went : (installation.migrator.run target).run Database.tablesBackend
    (tables.ensure bucket) with ⟨outcome, reached⟩
  have same := (run_completedMigration Database.run_onlyReads rfl went).symm.trans ran
  cases outcome with
  | ok migrated => cases same
  | error error =>
      cases same
      exact ⟨error, rfl⟩

theorem isUpdating_of_failed {version : Version} {tables final : Buckets String} {failure : Failure}
    (valid : Version.read target = .ok version)
    (ran : (installation.completedMigration target).run Database.tablesBackend tables =
      (.error failure, final)) :
    (Database.tablesStorage.Startable tables → Database.tablesStorage.IsUpdating final) ∧
      (¬ Database.tablesStorage.Startable tables → final = tables.ensure bucket) := by
  have same : Database.tablesStorage.objects (tables.ensure bucket) =
      Database.tablesStorage.objects tables := Buckets.read_ensure_eq tables bucket
  rcases run_of_completedMigration ran with ⟨error, failed⟩
  have flag := Database.tablesStorage_faithful.isUpdating_of_failed Releases.registry_spares valid
    failed
  constructor
  · intro startable
    exact flag.1 (startable.congr same)
  · intro unstartable
    apply flag.2
    intro startable
    exact unstartable (startable.congr same.symm)

def migrated (installation : Installation) (target : String) (site : Site) (opened : Database) :
    Database :=
  ((installation.completedMigration target).run site.backend opened).2

theorem migrate_eq (opens : installation.openSite site = .ok opened) :
    installation.migrate target false site =
      (((installation.completedMigration target).run site.backend opened).1,
        site.leave (installation.migrated target site opened)) := by
  rw [migrate, perform, visit, opens]
  rfl

/-- What a migration that fails leaves of a database that was opened at a site, and what is
told about it afterwards. -/
structure Aftermath (installation : Installation) (target : String) (site : Site)
    (opened : Database) : Prop where
  left_at_site : (installation.migrate target false site).2 =
    site.leave (installation.migrated target site opened)
  start_fails : ∃ failure, installation.start target site =
    (.error failure, site.leave (installation.migrated target site opened))
  flagged_iff : (installation.migrated target site opened).Flagged ↔
    opened.Flagged ∨ site.Grants opened ∧ opened.Startable
  untouched : ¬ (site.Grants opened ∧ opened.Startable) →
    (installation.migrated target site opened).texts = opened.texts
  told : site.Grants opened → site.Keeps →
    ((installation.isUpdating (site.leave (installation.migrated target site opened))).1 = .ok true ↔
      (installation.migrated target site opened).Flagged)
  ready : site.Grants opened → site.Keeps → ∀ service : Service, service.installation = installation →
    ((service.respond "GET" "/v1/ready"
      (site.leave (installation.migrated target site opened))).1.status = 503 ↔
        (installation.migrated target site opened).Flagged)

theorem migrated_of_grants (grants : site.Grants opened) :
    installation.migrated target site opened =
      { opened with
        tables := some
          ((installation.completedMigration target).run Database.tablesBackend opened.stored).2 } :=
  congrArg Prod.snd (Site.run_of_grants grants (installation.completedMigration target).toProgram)

theorem migrated_of_not_grants (refuses : ¬ site.Grants opened) :
    installation.migrated target site opened = opened :=
  Site.run_of_not_grants refuses (installation.completedMigration target).toProgram

theorem isUpdating_reopened (opens : installation.openSite site = .ok opened)
    (grants : site.Grants opened) (keeps : site.Keeps) :
    (installation.isUpdating (site.leave (installation.migrated target site opened))).1 = .ok true ↔
      (installation.migrated target site opened).Flagged := by
  rcases keeps with ⟨⟨content, ground⟩, present⟩
  have current : (installation.migrated target site opened).currentLayout = Database.latestLayout := by
    have atOpening := currentLayout_of_opened grants.1 opens
    rw [migrated_of_grants grants]
    exact atOpening
  have left : site.leave (installation.migrated target site opened) =
      { site.visited with ground := .database (installation.migrated target site opened) } := by
    rw [Site.leave, ground]
  rw [left]
  apply isUpdating_iff
  · show openDatabase site.refusal _ = _
    rw [grants.1]
    exact openDatabase_of_current current
  · refine ⟨grants.1, ?_⟩
    rw [migrated_of_grants grants]
    rfl
  · exact present

theorem flagged_of_failed {version : Version} {failure : Failure}
    (valid : Version.read target = .ok version) (grants : site.Grants opened)
    (failed : ((installation.completedMigration target).run site.backend opened).1 =
      .error failure) :
    (opened.Startable → (installation.migrated target site opened).Flagged) ∧
      (¬ opened.Startable →
        (installation.migrated target site opened).stored = opened.stored.ensure bucket) := by
  have ran : (installation.completedMigration target).run Database.tablesBackend opened.stored =
      (.error failure,
        ((installation.completedMigration target).run Database.tablesBackend opened.stored).2) := by
    refine Prod.ext ?_ rfl
    rw [← failed]
    exact (congrArg Prod.fst
      (Site.run_of_grants grants (installation.completedMigration target).toProgram)).symm
  rw [migrated_of_grants grants]
  exact isUpdating_of_failed valid ran

theorem aftermath_of_failed {version : Version} {failure : Failure}
    (opens : installation.openSite site = .ok opened) (valid : Version.read target = .ok version)
    (failed : (installation.migrate target false site).1 = .error failure) :
    installation.Aftermath target site opened := by
  have went : installation.migrate target false site = _ := migrate_eq opens
  have ended : ((installation.completedMigration target).run site.backend opened).1 =
      .error failure := by rw [← failed, went]
  have untouched : ¬ (site.Grants opened ∧ opened.Startable) →
      (installation.migrated target site opened).texts = opened.texts := by
    intro stays
    by_cases grants : site.Grants opened
    · have unstartable : ¬ opened.Startable := fun startable => stays ⟨grants, startable⟩
      rw [Database.texts, (flagged_of_failed valid grants ended).2 unstartable]
      exact Buckets.read_ensure_eq opened.stored bucket
    · rw [migrated_of_not_grants grants]
  constructor
  · rw [went]
  · refine ⟨failure.during (.starting installation.path), ?_⟩
    rw [start, went, ended]
    rfl
  · by_cases started : site.Grants opened ∧ opened.Startable
    · simp only [started, and_self, or_true, iff_true]
      exact (flagged_of_failed valid started.1 ended).1 started.2
    · simp only [started, or_false]
      exact Database.flagged_congr (untouched started)
  · exact untouched
  · exact isUpdating_reopened opens
  · intro grants keeps service served
    rw [Service.ready_iff, served]
    exact isUpdating_reopened opens grants keeps

/-! ## Two databases that cannot be migrated -/

def sample : Installation := ⟨"kvmigrate.sqlite3", ⟨1⟩, "01J0000000000000000000000A"⟩

def recordedAs (stored : Json) : Database :=
  ⟨[1], some (Buckets.empty.write bucket recordKey stored.compact), .writeAhead⟩

def siteOf (content : Database) : Site := ⟨true, true, .database content, none, false⟩

def corrupt : Database :=
  recordedAs (VersionRecord.toJson ⟨"two", 0, ⟨1⟩, "01J0000000000000000000000A"⟩)

def unreadable : Database := recordedAs (.string "garbage")

theorem aftermath_corrupt :
    ∃ failure,
      sample.openSite (siteOf corrupt) = .ok corrupt ∧
      Version.read "2.16.0" = .ok (.release 2 16 0) ∧
      (sample.migrate "2.16.0" false (siteOf corrupt)).1 = .error failure ∧
      sample.Aftermath "2.16.0" (siteOf corrupt) corrupt := by
  have opens : sample.openSite (siteOf corrupt) = .ok corrupt := rfl
  have valid : Version.read "2.16.0" = .ok (.release 2 16 0) := rfl
  have fails : (sample.migrate "2.16.0" false (siteOf corrupt)).1.toOption.isNone = true := by
    decide +kernel
  cases outcome : (sample.migrate "2.16.0" false (siteOf corrupt)).1 with
  | error failure => exact ⟨failure, opens, valid, rfl, aftermath_of_failed opens valid outcome⟩
  | ok summary =>
      rw [outcome] at fails
      cases fails

theorem unflagged_unreadable :
    ∃ failure,
      sample.openSite (siteOf unreadable) = .ok unreadable ∧
      Version.read "2.16.0" = .ok (.release 2 16 0) ∧
      sample.migrate "2.16.0" false (siteOf unreadable) =
        (.error failure, (siteOf unreadable).leave unreadable) ∧
      ¬ unreadable.Flagged ∧
      (sample.isUpdating ((siteOf unreadable).leave unreadable)).1 = .ok false ∧
      (Service.respond ⟨sample, "2.16.0"⟩ "GET" "/v1/ready"
        ((siteOf unreadable).leave unreadable)).1.status = 200 := by
  refine ⟨_, rfl, rfl, rfl, ?_, rfl, rfl⟩
  intro flagged
  cases flagged

end Installation

end StoreMigration
