import StoreMigration.Proofs.Disk.Reopening
import StoreMigration.Proofs.Installation.Queries

/-! What is answered about a database that a migration has finished with. All that is asked
takes no more than looking things up, once the bucket is there; so a database that is up to
date answers even where every change to it is refused (`answers_of_finished`), and stays up to
date (`remains_of_asks`). -/

namespace StoreMigration

open Bookkeeping

structure Objects.Finished (objects : Objects String) (record : VersionRecord) : Prop where
  recorded : objects.Records record
  lowered : objects.entry Json.decodeBool updatingKey = .ok (some false)

namespace Installation

/-! ## Looking things up -/

section LookingUp

variable {site : Site} {database : Database} {tables : Buckets String} {request : Request}

theorem has_of_records {record : VersionRecord} (recorded : database.texts.Records record) :
    database.stored.Has bucket := by
  cases found : database.texts bucket recordKey with
  | none => exact absurd found recorded.present
  | some text => exact Buckets.has_of_read found

theorem unchanging_of_looksUp (has : database.stored.Has bucket) (looks : LooksUp request) :
    database.changes request = false := by
  rcases looks with harmless | rfl
  · cases request with
    | get bucket key => rfl
    | listKeys bucket => rfl
    | ensureBucket bucket => cases harmless
    | update bucket key value => cases harmless
    | delete bucket key => cases harmless
  · rw [Database.changes, Option.isNone_eq_false_iff]
    exact has

theorem backend_of_looksUp (present : database.tables = some tables)
    (has : database.stored.Has bucket) (granted : site.refusal ≠ some .writes)
    (looks : LooksUp request) :
    site.backend request database = ((Database.tablesBackend request tables).1, database) ∧
      (Database.tablesBackend request tables).2 = tables := by
  have unchanging := unchanging_of_looksUp has looks
  have passed := Database.backend_of_tables present request
  have fixed : (Database.backend request database).2 = database := Database.backend_fixed unchanging
  have answered : Database.backend request database =
      ((Database.tablesBackend request tables).1, database) :=
    Prod.ext (by rw [passed]) fixed
  constructor
  · rw [Site.backend]
    cases restricted : site.refusal with
    | none => exact answered
    | some refusal =>
        cases refusal with
        | writes => exact absurd restricted granted
        | changes => simpa [Database.guardedBackend, Database.Refusal.refuses, unchanging] using answered
  · rw [passed] at fixed
    have same := congrArg Database.tables fixed
    rw [present] at same
    exact Option.some.inj same

theorem run_of_looksUp (present : database.tables = some tables)
    (has : database.stored.Has bucket) (granted : site.refusal ≠ some .writes)
    {program : Program α} (looks : program.KeepsTo LooksUp) :
    program.run site.backend database = ((program.run Database.tablesBackend tables).1, database) := by
  induction program with
  | done result => rfl
  | call request next induction =>
      rcases looks with ⟨looksFirst, looksOn⟩
      rcases backend_of_looksUp present has granted looksFirst with ⟨answered, fixed⟩
      rw [Program.run_call, Program.run_call, answered, fixed]
      exact induction _ (looksOn _)

end LookingUp

/-! ## Answers -/

section Answers

variable {installation : Installation} {site : Site} {content : Database} {record : VersionRecord}
  {target : String} {version stored : Version}

theorem openDatabase_of_upToDate (upToDate : content.UpToDate) (refusal : Option Database.Refusal) :
    openDatabase refusal content = .ok content := by
  have migrated := Database.migrateLayout_of_current upToDate.layout
  rcases Option.isSome_iff_exists.mp upToDate.tables with ⟨tables, present⟩
  cases refusal <;> simp [openDatabase, present, migrated]

theorem openSite_of_upToDate (ground : site.ground = .database content)
    (upToDate : content.UpToDate) : installation.openSite site = .ok content := by
  rw [openSite, ground]
  exact openDatabase_of_upToDate upToDate site.refusal

theorem run_of_upToDate {action : Action ε α} (upToDate : content.UpToDate)
    (recorded : content.texts.Records record) (granted : site.refusal ≠ some .writes)
    (looks : action.KeepsTo LooksUp) :
    action.run site.backend content =
      ((action.run Database.tablesBackend content.stored).1, content) := by
  rcases Option.isSome_iff_exists.mp upToDate.tables with ⟨tables, present⟩
  have stored : content.stored = tables := by rw [Database.stored, present]; rfl
  rw [stored]
  exact run_of_looksUp present (has_of_records recorded) granted looks

theorem run_readRecord {tables prepared : Buckets String} (ensured : tables.ensure bucket = prepared)
    (recorded : Database.tablesStorage.entry VersionRecord.ofJson recordKey prepared =
      .ok (some record)) :
    readRecord.run Database.tablesBackend tables = (.ok record, prepared) := by
  have found : Bookkeeping.record.run Database.tablesBackend prepared = (.ok record, prepared) :=
    Action.run_bind_of_ok (Database.tablesStorage_faithful.run_found recorded) _
  subst ensured
  apply (run_of_prepared rfl _).trans
  exact Action.run_withError found (Failure.ofMigration .readingRecord)

/-- What is answered where a database is there that a migration has finished with. -/
structure Answers (installation : Installation) (target : String) (version : Version) (site : Site)
    (record : VersionRecord) : Prop where
  flag : (installation.isUpdating site).1 = .ok false
  recorded : (installation.currentVersion site).1 = .ok record
  status : ∃ report, (installation.status target site).1 = .ok report ∧ report.target = version ∧
    report.record = some record ∧ report.isUpdating = false ∧ report.source = .existing

theorem answers_of_finished (present : site.isPresent = true)
    (ground : site.ground = .database content) (upToDate : content.UpToDate)
    (granted : site.refusal ≠ some .writes) (finished : content.texts.Finished record)
    (parsed : record.parsedVersion = .ok stored) (valid : Version.read target = .ok version) :
    installation.Answers target version site record := by
  have opens : installation.openSite site = .ok content := openSite_of_upToDate ground upToDate
  have has := has_of_records finished.recorded
  have ensured := Buckets.ensure_of_has has
  have recorded : Database.tablesStorage.entry VersionRecord.ofJson recordKey content.stored =
      .ok (some record) := finished.recorded
  have lowered : Database.tablesStorage.entry Json.decodeBool updatingKey content.stored =
      .ok (some false) := finished.lowered
  have asked : ∀ {β : Type} {action : Action Failure β}, action.KeepsTo LooksUp →
      (installation.ask action site).1 = (action.run Database.tablesBackend content.stored).1 := by
    intro β action looks
    rw [ask, if_pos present, perform, visit, opens]
    exact congrArg Prod.fst (run_of_upToDate upToDate finished.recorded granted looks)
  constructor
  · rw [isUpdating, asked looksUp_readFlag, run_readFlag, lowered]
    rfl
  · rw [currentVersion, asked looksUp_readRecord, run_readRecord ensured recorded]
  · have planned := Plan.ofRecord_of_parsed installation.migrator.registry version parsed
    have surveyed : (installation.survey target).run site.backend content = _ :=
      run_of_upToDate upToDate finished.recorded granted (looksUp_survey target)
    rw [run_survey ensured valid (.existing recorded) planned recorded lowered] at surveyed
    rw [status, if_pos present, visit, opens]
    simp only [surveyed]
    exact ⟨_, rfl, rfl, rfl, rfl, rfl⟩

theorem granted_of_isUpdating {updating : Bool}
    (answered : (installation.isUpdating site).1 = .ok updating) :
    site.isPresent = true ∧ site.refusal ≠ some .writes ∧
      ∃ opened, installation.openSite site = .ok opened := by
  rw [isUpdating, ask] at answered
  split at answered
  · next present =>
      rw [perform, visit] at answered
      cases opens : installation.openSite site with
      | error failure =>
          rw [opens] at answered
          cases answered
      | ok opened =>
          rw [opens] at answered
          refine ⟨present, ?_, opened, rfl⟩
          intro restricted
          have prepared := granted_of_ok answered
          rw [Site.backend, restricted] at prepared
          cases prepared
  · cases answered

end Answers

end Installation

/-! ## What asking leaves -/

/-- What a use of a site leaves of a database that is up to date there. -/
inductive Site.Remains (site : Site) : Site → Prop
  | unopened : Remains site site
  | opened {content left : Database} {after : Site} (found : site.ground = .database content)
      (isOpened : after.isOpened = true) (ground : after.ground = .database left)
      (upToDate : left.UpToDate) : Remains site after
  | failed (nothing : ∀ content, site.ground ≠ .database content) : Remains site site.visited

theorem Site.upToDate_run {site : Site} {opened : Database} (upToDate : opened.UpToDate)
    (action : Action ε α) : (action.run site.backend opened).2.UpToDate := by
  have ran : (action.run site.backend opened).2 = (action.toProgram.run site.backend opened).2 := rfl
  by_cases grants : site.Grants opened
  · rw [ran, Site.run_of_grants grants]
    exact ⟨upToDate.layout, rfl⟩
  · rwa [ran, Site.run_of_not_grants grants]

namespace Installation

section Remaining

variable {installation : Installation} {site : Site} {disk before : Disk} {path : Path}
  {left : Database} {call : Call}

theorem remains_visit {use : Database → Except Failure α × Database}
    (upToDate : ∀ content, site.ground = .database content → content.UpToDate)
    (keeps : ∀ opened, opened.UpToDate → (use opened).2.UpToDate) :
    site.Remains (installation.visit use site).2 := by
  cases ground : site.ground with
  | database content =>
      have current := upToDate content ground
      have left : ∀ kept, site.leave kept = { site.visited with ground := .database kept } :=
        fun kept => by rw [Site.leave, ground]
      rw [visit, openSite_of_upToDate ground current]
      simp only [left]
      exact .opened ground rfl rfl (keeps content current)
  | closed error | unusable error =>
      rw [visit, openSite, ground]
      exact .failed (by simp [ground])
  | transient =>
      rw [visit]
      split
      · exact .failed (by simp [ground])
      · have left : ∀ kept, site.leave kept = site := fun kept => by rw [Site.leave, ground]
        simp only [left]
        exact .unopened

theorem remains_ask (upToDate : ∀ content, site.ground = .database content → content.UpToDate)
    (action : Action Failure α) : site.Remains (installation.ask action site).2 := by
  rw [ask]
  split
  · exact remains_visit upToDate fun _ current => Site.upToDate_run current action
  · exact .unopened

theorem remains_status (upToDate : ∀ content, site.ground = .database content → content.UpToDate)
    (target : String) : site.Remains (installation.status target site).2 := by
  rw [status]
  split
  · exact remains_visit upToDate fun _ current =>
      Site.upToDate_run current (installation.survey target)
  · exact .unopened

theorem remains_of_asks (installation : Installation) (asks : call.Asks) : ∃ use : Site → Site,
    (∀ disk, (installation.carryOut disk call).2 =
      disk.settle installation.path (use (disk.site installation.path))) ∧
    ∀ site : Site, (∀ content, site.ground = .database content → content.UpToDate) →
      site.Remains (use site) := by
  cases asks with
  | status target => exact ⟨_, fun _ => rfl, fun _ current => remains_status current target⟩
  | currentVersion => exact ⟨_, fun _ => rfl, fun _ current => remains_ask current _⟩
  | currentEdition => exact ⟨_, fun _ => rfl, fun _ current => remains_ask current _⟩
  | instanceId => exact ⟨_, fun _ => rfl, fun _ current => remains_ask current _⟩
  | isUpdating => exact ⟨_, fun _ => rfl, fun _ current => remains_ask current _⟩

theorem current_carryOut (asks : call.Asks) (current : disk.Current installation.path) :
    (installation.carryOut disk call).2.Current installation.path := by
  rcases remains_of_asks installation asks with ⟨use, settled, remains⟩
  have upToDate : ∀ content, (disk.site installation.path).ground = .database content →
      content.UpToDate := fun _ => Disk.upToDate_of_ground current
  rw [settled]
  apply Disk.current_settle current
  intro left ground
  have remained := remains _ upToDate
  generalize use (disk.site installation.path) = after at remained ground
  cases remained with
  | unopened => exact upToDate left ground
  | opened _ _ groundToo leftUpToDate =>
      cases groundToo.symm.trans ground
      exact leftUpToDate
  | failed nothing => exact absurd ground (nothing left)

theorem settles_carryOut {place : Path} (asks : call.Asks)
    (plain : Address.IsPlain installation.path)
    (placed : before.placeOf installation.path = .ok (.file path .usual)) (room : path.HasRoom)
    (located : before.locate installation.path = .ok place)
    (current : disk.Current installation.path) (settles : before.Settles disk path left) :
    ∃ next, before.Settles (installation.carryOut disk call).2 path next := by
  have locatedNow : disk.locate installation.path = .ok place :=
    (Disk.locate_eq_ok_iff settles.home settles.directories).mpr located
  rcases Disk.reopens_of_settles plain placed settles locatedNow with ⟨placedNow, reopens, free⟩
  rcases reopens.found with ⟨content, ground⟩
  rcases Disk.configured_of_ground placedNow ground with ⟨near, went, refusal⟩
  rcases remains_of_asks installation asks with ⟨use, settled, remains⟩
  rw [settled]
  have remained := remains (disk.site installation.path) fun _ => Disk.upToDate_of_ground current
  generalize use (disk.site installation.path) = after at remained
  cases remained with
  | unopened =>
      rw [Disk.settle_of_unopened (Disk.isOpened_site disk _)]
      exact ⟨left, settles⟩
  | @opened _ next _ found isOpened groundAfter upToDate =>
      have again := Disk.settles_of_opened placedNow room went (refusal.symm.trans free) isOpened
        groundAfter
      exact ⟨next, settles.trans again⟩
  | failed nothing => exact absurd ground (nothing content)

end Remaining

end Installation

end StoreMigration
