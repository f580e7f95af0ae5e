import StoreMigration.Proofs.Installation.Answering

/-! A service that was started. A migration that succeeds leaves the record of its target with
the flag lowered, and no request changes an object; so the service tells of that record for as
long as its database is opened again. For a text that is just a path this is so exactly where
the text could be followed to begin with. -/

namespace StoreMigration

open Bookkeeping

/-! ## The migration of the start -/

namespace Installation

variable {installation : Installation} {site : Site} {opened : Database} {target : String}
  {summary : MigrationSummary}

theorem finished_of_completed
    (ran : ((installation.completedMigration target).run site.backend opened).1 = .ok summary) :
    ∃ version record, Version.read target = .ok version ∧ record.schemaVersion = version.text ∧
      (installation.migrated target site opened).texts.Finished record := by
  have grants := grants_of_completed ran
  rw [fst_run_of_grants grants] at ran
  rw [migrated_of_grants grants]
  rcases went : (installation.migrator.run target).run Database.tablesBackend
    (Database.tablesBackend (.ensureBucket bucket) opened.stored).2 with ⟨outcome, final⟩
  rw [run_completedMigration Database.run_onlyReads rfl went] at ran ⊢
  cases outcome with
  | error error => cases ran
  | ok migrated =>
      rcases Migrator.ran_of_ok went with ⟨middle, completed⟩
      have completed : (installation.migrator.registry.run target).run
        Database.tablesStorage.backend middle = (.ok migrated.report, final) := completed
      rcases Registry.executes_of_ok completed with
        ⟨version, stored, record, made, reached, valid, _, _, executes⟩
      have lowered : Database.tablesStorage.objects final bucket updatingKey =
          some (Database.tablesStorage.encode (.bool false)) := by
        rw [executes.objects]
        exact Objects.set_same _ _ _ _
      have read : Database.tablesStorage.read final bucket updatingKey = .ok (some (.bool false)) :=
        Database.tablesStorage.read_of_encoded trivial trivial (by decide) lowered
      refine ⟨version, _, valid, rfl, Storage.entry_of_record executes.record, ?_⟩
      show Action.decodeAnswer Json.decodeBool bucket updatingKey
        (Database.tablesStorage.read final bucket updatingKey) = _
      rw [read]
      rfl

theorem upToDate_migrated (opens : installation.openSite site = .ok opened)
    (grants : site.Grants opened) : (installation.migrated target site opened).UpToDate := by
  have current := currentLayout_of_opened grants.1 opens
  rw [migrated_of_grants grants]
  exact ⟨current, rfl⟩

end Installation

namespace Service

/-! ## Requests -/

structure Inquiry where
  method : String
  address : String

variable (service : Service) (disk : Disk)

def answer (inquiry : Inquiry) : Answer × Disk :=
  disk.visit service.installation.path (service.respond inquiry.method inquiry.address)

def afterInquiries (inquiries : List Inquiry) : Disk :=
  inquiries.foldl (fun disk inquiry => (service.answer disk inquiry).2) disk

def begun : Disk := (disk.visit service.installation.path service.start).2

variable {service disk} {inquiry : Inquiry} {inquiries : List Inquiry} {site : Site}

theorem read_asks (service : Service) (query : List Char) (route : Route) :
    (∀ site, (service.read query site route).2 = site) ∨
      ∃ call : Installation.Call, call.Asks ∧ ∀ disk : Disk,
        disk.settle service.installation.path
          (service.read query (disk.site service.installation.path) route).2 =
            (service.installation.carryOut disk call).2 := by
  cases route with
  | health => exact .inl fun _ => rfl
  | ready => exact .inr ⟨_, .isUpdating, fun _ => rfl⟩
  | version => exact .inr ⟨_, .currentVersion, fun _ => rfl⟩
  | databaseStatus =>
      cases named : singleField "target" (decodeFields query) with
      | error repeated =>
          refine .inl fun site => ?_
          simp only [read, respondStatus, named]
      | ok target =>
          refine .inr ⟨_, .status (target.getD service.target), fun disk => ?_⟩
          simp only [read, respondStatus, named]
          rfl

theorem respond_snd (service : Service) (inquiry : Inquiry) (site : Site) :
    (service.respond inquiry.method inquiry.address site).2 =
      match Route.ofPath? (splitAddress inquiry.address).1 with
      | none => site
      | some route =>
          if inquiry.method = "GET" ∨ inquiry.method = "HEAD" then
            (service.read (splitAddress inquiry.address).2 site route).2
          else site := by
  cases routed : Route.ofPath? (splitAddress inquiry.address).1 with
  | none => simp only [respond, routed]
  | some route =>
      simp only [respond, routed]
      by_cases get : inquiry.method = "GET"
      · rw [if_pos get, if_pos (.inl get)]
      · by_cases head : inquiry.method = "HEAD"
        · rw [if_neg get, if_pos head, if_pos (.inr head)]
        · rw [if_neg get, if_neg head, if_neg (not_or.mpr ⟨get, head⟩)]

theorem answer_asks (service : Service) (inquiry : Inquiry) :
    (∀ disk, (service.answer disk inquiry).2 = disk) ∨
      ∃ call : Installation.Call, call.Asks ∧
        ∀ disk, (service.answer disk inquiry).2 = (service.installation.carryOut disk call).2 := by
  have settled : ∀ disk : Disk, (service.answer disk inquiry).2 =
      disk.settle service.installation.path
        (service.respond inquiry.method inquiry.address (disk.site service.installation.path)).2 := by
    intro disk
    simp only [answer, Disk.visit]
  have untouched : ∀ disk : Disk, disk.settle service.installation.path
      (disk.site service.installation.path) = disk :=
    fun disk => Disk.settle_of_unopened (Disk.isOpened_site disk _)
  simp only [settled, respond_snd]
  split
  · exact .inl untouched
  · next route _ =>
      split
      · rcases read_asks service (splitAddress inquiry.address).2 route with same | asks
        · simp only [same]
          exact .inl untouched
        · exact .inr asks
      · exact .inl untouched

theorem holds_afterInquiries (holds : Disk → Prop)
    (kept : ∀ (call : Installation.Call) (disk : Disk), call.Asks → holds disk →
      holds (service.installation.carryOut disk call).2)
    (begins : holds disk) : holds (service.afterInquiries disk inquiries) := by
  induction inquiries generalizing disk with
  | nil => exact begins
  | cons inquiry rest induction =>
      refine induction ?_
      show holds (service.answer disk inquiry).2
      rcases answer_asks service inquiry with same | ⟨call, asks, told⟩
      · rwa [same]
      · rw [told]
        exact kept call disk asks begins

/-! ## Serving a record -/

/-- A record of the version is stored, and all that is asked about it is answered from it. -/
structure Tells (service : Service) (disk : Disk) (version : Version) (record : VersionRecord) :
    Prop where
  recorded : (disk.texts service.installation.path).Records record
  stamped : record.schemaVersion = version.text
  ready : (service.answer disk ⟨"GET", "/v1/ready"⟩).1 = success (health "ready")
  identity : (service.answer disk ⟨"GET", "/v1/version"⟩).1 = success (versionData record)
  status : ∃ report : StatusReport, (service.answer disk ⟨"GET", "/v1/db/status"⟩).1 = success report.toJson ∧
    report.target = version ∧ report.record = some record ∧ report.isUpdating = false ∧
      report.source = .existing

def Serves (service : Service) (disk : Disk) (version : Version) : Prop :=
  ∃ record, service.Tells disk version record

variable {version : Version} {record : VersionRecord}

theorem texts_of_shown {text : String} {content : Database}
    (ground : (disk.site text).ground = .database content) : content.texts = disk.texts text := by
  rcases Disk.placed_of_ground ground with ⟨path, terms, placed⟩
  rw [Disk.texts_of_ground placed ground, Disk.texts_of_opens (Disk.opens_of_placeOf placed)]

theorem answer_of_routed {address : String} {route : Route}
    (routed : Route.ofPath? (splitAddress address).1 = some route) :
    (service.answer disk ⟨"GET", address⟩).1 = (service.read (splitAddress address).2
      (disk.site service.installation.path) route).1 := by
  simp only [answer, Disk.visit, respond, routed, if_true]

theorem answer_ready (service : Service) (disk : Disk) :
    (service.answer disk ⟨"GET", "/v1/ready"⟩).1 =
      answerReady (service.installation.isUpdating (disk.site service.installation.path)).1 := by
  have routed : Route.ofPath? (splitAddress "/v1/ready").1 = some .ready := by decide
  exact answer_of_routed routed

theorem answer_version (service : Service) (disk : Disk) :
    (service.answer disk ⟨"GET", "/v1/version"⟩).1 =
      answerVersion (service.installation.currentVersion (disk.site service.installation.path)).1 := by
  have routed : Route.ofPath? (splitAddress "/v1/version").1 = some .version := by decide
  exact answer_of_routed routed

theorem answer_status (service : Service) (disk : Disk) :
    (service.answer disk ⟨"GET", "/v1/db/status"⟩).1 = answerStatus
      (service.installation.status service.target (disk.site service.installation.path)).1 := by
  have routed : Route.ofPath? (splitAddress "/v1/db/status").1 = some .databaseStatus := by decide
  have unnamed : singleField "target" (decodeFields (splitAddress "/v1/db/status").2) =
      .ok none := rfl
  rw [answer_of_routed routed]
  simp only [read, respondStatus, unnamed, Option.getD_none]

theorem tells_of_reopens (valid : Version.read service.target = .ok version)
    (stamped : record.schemaVersion = version.text)
    (finished : (disk.texts service.installation.path).Finished record)
    (current : disk.Current service.installation.path)
    (reopens : disk.Reopens service.installation.path) : service.Tells disk version record := by
  rcases reopens.found with ⟨content, ground⟩
  have upToDate := Disk.upToDate_of_ground current ground
  rw [← texts_of_shown ground] at finished
  have parsed : record.parsedVersion = .ok version := by
    rw [VersionRecord.parsedVersion, stamped]
    exact Version.read_text version
  have answers : service.installation.Answers service.target version
      (disk.site service.installation.path) record :=
    Installation.answers_of_finished reopens.present ground upToDate reopens.granted finished parsed
      valid
  rcases answers.status with ⟨report, told, target, recorded, updating, source⟩
  refine ⟨texts_of_shown ground ▸ finished.recorded, stamped, ?_, ?_, report, ?_, target, recorded,
    updating, source⟩
  · rw [answer_ready, answers.flag]
    rfl
  · rw [answer_version, answers.recorded]
    rfl
  · rw [answer_status, told]
    rfl

theorem isUpdating_of_ready
    (ready : (service.answer disk ⟨"GET", "/v1/ready"⟩).1 = success (health "ready")) :
    (service.installation.isUpdating (disk.site service.installation.path)).1 = .ok false := by
  rw [answer_ready] at ready
  cases known : (service.installation.isUpdating (disk.site service.installation.path)).1 with
  | error failure =>
      rw [known] at ready
      have status : 500 = 200 := congrArg Answer.status ready
      cases status
  | ok updating =>
      cases updating with
      | false => rfl
      | true =>
          rw [known] at ready
          have status : 503 = 200 := congrArg Answer.status ready
          cases status

theorem reopens_of_tells (tells : service.Tells disk version record) :
    disk.Reopens service.installation.path := by
  rcases Installation.granted_of_isUpdating (isUpdating_of_ready tells.ready) with
    ⟨present, granted, opened, opens⟩
  refine ⟨present, ?_, granted⟩
  rcases Disk.opened_cases opens with ⟨_, nowhere, _⟩ | ⟨path, terms, placed, _, _⟩
  · have recorded := tells.recorded
    rw [Disk.texts_of_nowhere nowhere] at recorded
    exact absurd recorded Objects.not_records_none
  · rcases Disk.ground_of_opened placed opens with ⟨content, ground, _⟩
    exact ⟨content, ground⟩

/-! ## After the start -/

variable {summary : MigrationSummary}

/-- How a service goes on that has started at a version: no request changes an object, and what
is told is right for as long as the database is opened again. A text that is just a path, of a
file whose name leaves room, has to lead somewhere from the start. -/
structure GoesOn (service : Service) (disk : Disk) (version : Version) (inquiries : List Inquiry) :
    Prop where
  texts : (service.afterInquiries (service.begun disk) inquiries).texts service.installation.path =
    (service.begun disk).texts service.installation.path
  serves_iff : service.Serves (service.afterInquiries (service.begun disk) inquiries) version ↔
    (service.afterInquiries (service.begun disk) inquiries).Reopens service.installation.path
  serves_iff_of_plain : ∀ file, Address.IsPlain service.installation.path →
    Address.target? service.installation.path disk.home = some file → file.HasRoom →
      (service.Serves (service.afterInquiries (service.begun disk) inquiries) version ↔
        ∃ place, disk.locate service.installation.path = .ok place)

theorem migrated_of_started
    (started : (disk.visit service.installation.path service.start).1 = .ok summary) :
    ∃ done, (service.installation.migrate service.target false
      (disk.site service.installation.path)).1 = .ok done := by
  have told : (service.installation.migrate service.target false
      (disk.site service.installation.path)).1.mapError
        (Failure.during (.starting service.installation.path)) = .ok summary := started
  cases went : (service.installation.migrate service.target false
      (disk.site service.installation.path)).1 with
  | error failure =>
      rw [went] at told
      cases told
  | ok done => exact ⟨done, rfl⟩

/-- What a start that succeeds leaves under the path: the record of the target, and on the usual
terms a file that can be opened again. -/
structure Starts (service : Service) (disk : Disk) (version : Version) (path : Path)
    (terms : Terms) : Prop where
  placed : disk.placeOf service.installation.path = .ok (.file path terms)
  current : (service.begun disk).Current service.installation.path
  finished : ∃ record, record.schemaVersion = version.text ∧
    ((service.begun disk).texts service.installation.path).Finished record
  settles : terms = .usual → path.HasRoom → ∃ left, disk.Settles (service.begun disk) path left

/-- A database in memory is forgotten once it is started on. -/
theorem begun_cases
    (started : (disk.visit service.installation.path service.start).1 = .ok summary) :
    ∃ version, Version.read service.target = .ok version ∧
      ((Address.target? service.installation.path disk.home = none ∧ service.begun disk = disk) ∨
        ∃ path terms, service.Starts disk version path terms) := by
  rcases migrated_of_started started with ⟨done, went⟩
  rcases Installation.opens_of_migrated went with ⟨opened, opens⟩
  have begins : service.begun disk = disk.settle service.installation.path
      ((disk.site service.installation.path).leave (service.installation.migrated service.target
        (disk.site service.installation.path) opened)) := by
    have left : (service.installation.migrate service.target false
        (disk.site service.installation.path)).2 = _ :=
      congrArg Prod.snd (Installation.migrate_eq opens)
    exact congrArg (disk.settle service.installation.path) left
  rw [Installation.migrate_eq opens] at went
  have grants := Installation.grants_of_completed went
  have upToDate : (service.installation.migrated service.target
      (disk.site service.installation.path) opened).UpToDate :=
    Installation.upToDate_migrated opens grants
  rcases Installation.finished_of_completed went with ⟨version, record, valid, stamped, finished⟩
  refine ⟨version, valid, ?_⟩
  rcases Disk.opened_cases opens with ⟨_, nowhere, same⟩ | ⟨path, terms, placed, _, leaves⟩
  · rw [same, Disk.settle_of_unopened (Disk.isOpened_site disk _)] at begins
    exact .inl ⟨nowhere, begins⟩
  · rcases leaves (service.installation.migrated service.target
      (disk.site service.installation.path) opened) with ⟨isOpened, ground⟩
    refine .inr ⟨path, terms, placed, ?_, ⟨record, stamped, ?_⟩, ?_⟩
    · rw [begins]
      exact Disk.current_of_left placed isOpened ground upToDate
    · rw [begins, Disk.texts_settle placed isOpened, Site.texts?_of_ground ground]
      exact finished
    · rintro rfl room
      rcases Disk.ground_of_opened placed opens with ⟨content, shown, _⟩
      rcases Disk.configured_of_ground placed shown with ⟨near, configured, refusal⟩
      rw [begins]
      exact ⟨_, Disk.settles_of_opened placed room configured (refusal.symm.trans grants.1) isOpened
        ground⟩

theorem texts_afterInquiries (service : Service) (disk : Disk) (inquiries : List Inquiry) :
    (service.afterInquiries disk inquiries).texts service.installation.path =
      disk.texts service.installation.path := by
  refine holds_afterInquiries (fun now => now.texts service.installation.path =
    disk.texts service.installation.path) ?_ rfl
  intro call now asks same
  rw [Installation.texts_carryOut (.asks asks), same]

theorem home_afterInquiries (service : Service) (disk : Disk) (inquiries : List Inquiry) :
    (service.afterInquiries disk inquiries).home = disk.home := by
  refine holds_afterInquiries (fun now => now.home = disk.home) ?_ rfl
  intro call now _ same
  rw [Installation.home_carryOut, same]

/-- The service serves its store for as long as the database is opened again. -/
theorem serves_iff_reopens (valid : Version.read service.target = .ok version)
    (stamped : record.schemaVersion = version.text)
    (finished : (disk.texts service.installation.path).Finished record)
    (current : disk.Current service.installation.path) :
    service.Serves disk version ↔ disk.Reopens service.installation.path := by
  constructor
  · rintro ⟨record, tells⟩
    exact reopens_of_tells tells
  · intro reopens
    exact ⟨record, tells_of_reopens valid stamped finished current reopens⟩

theorem serves_iff_reopens_of_nowhere
    (nowhere : Address.target? service.installation.path disk.home = none) :
    service.Serves disk version ↔ disk.Reopens service.installation.path := by
  constructor
  · rintro ⟨record, tells⟩
    exact reopens_of_tells tells
  · intro reopens
    rcases reopens.found with ⟨content, ground⟩
    rcases Disk.placed_of_ground ground with ⟨path, terms, placed⟩
    cases (Disk.opens_of_placeOf placed).target.symm.trans nowhere

theorem reopens_iff_of_settles {path : Path} {left : Database} {begun : Disk}
    (plain : Address.IsPlain service.installation.path)
    (placed : disk.placeOf service.installation.path = .ok (.file path .usual))
    (room : path.HasRoom) (settles : disk.Settles begun path left)
    (current : begun.Current service.installation.path) :
    (service.afterInquiries begun inquiries).Reopens service.installation.path ↔
      ∃ place, disk.locate service.installation.path = .ok place := by
  constructor
  · intro reopens
    -- Where the text leads nowhere, nothing is opened and the disk stays as the start left it.
    by_contra lost
    have missing : begun.lookUp service.installation.path = none := by
      cases located : begun.locate service.installation.path with
      | error obstacle =>
          rw [Disk.lookUp, located]
          rfl
      | ok place =>
          exact absurd ⟨place, (Disk.locate_eq_ok_iff settles.home settles.directories).mp located⟩ lost
    have still : service.afterInquiries begun inquiries = begun := by
      refine holds_afterInquiries (fun now => now = begun) ?_ rfl
      rintro call now asks rfl
      exact Installation.carryOut_of_missing asks missing
    have present := reopens.present
    rw [still, Installation.absent_of_missing missing] at present
    cases present
  · rintro ⟨place, located⟩
    have kept : ∃ next, disk.Settles (service.afterInquiries begun inquiries) path next ∧
        (service.afterInquiries begun inquiries).Current service.installation.path := by
      refine holds_afterInquiries (fun now => ∃ next, disk.Settles now path next ∧
        now.Current service.installation.path) ?_ ⟨left, settles, current⟩
      rintro call now asks ⟨next, settled, currentNow⟩
      rcases Installation.settles_carryOut asks plain placed room located currentNow settled with
        ⟨last, settledLast⟩
      exact ⟨last, settledLast, Installation.current_carryOut asks currentNow⟩
    rcases kept with ⟨next, settled, _⟩
    have locatedNow := (Disk.locate_eq_ok_iff settled.home settled.directories).mpr located
    exact (Disk.reopens_of_settles plain placed settled locatedNow).2.1

theorem goesOn_of_nowhere (nowhere : Address.target? service.installation.path disk.home = none)
    (same : service.begun disk = disk) : service.GoesOn disk version inquiries := by
  constructor
  · exact texts_afterInquiries service _ inquiries
  · apply serves_iff_reopens_of_nowhere
    rw [home_afterInquiries, same]
    exact nowhere
  · intro file _ target _
    cases target.symm.trans nowhere

theorem goesOn_of_starts {path : Path} {terms : Terms}
    (valid : Version.read service.target = .ok version)
    (starts : service.Starts disk version path terms) :
    service.GoesOn disk version inquiries := by
  rcases starts.finished with ⟨record, stamped, finished⟩
  have kept := texts_afterInquiries service (service.begun disk) inquiries
  have current : (service.afterInquiries (service.begun disk) inquiries).Current
      service.installation.path :=
    holds_afterInquiries (fun now => now.Current service.installation.path)
      (fun _ _ asks => Installation.current_carryOut asks) starts.current
  have serves := serves_iff_reopens valid stamped (kept ▸ finished) current
  refine ⟨kept, serves, ?_⟩
  intro file plain target room
  cases (Disk.opens_of_placeOf starts.placed).target.symm.trans target
  cases Disk.terms_of_plain plain starts.placed
  rcases starts.settles rfl room with ⟨left, settles⟩
  rw [serves]
  exact reopens_iff_of_settles plain starts.placed room settles starts.current

/-- A service that was started goes on, whatever is asked of it. -/
theorem goes_on_of_started
    (started : (disk.visit service.installation.path service.start).1 = .ok summary) :
    ∃ version, Version.read service.target = .ok version ∧
      ∀ inquiries, service.GoesOn disk version inquiries := by
  rcases begun_cases started with ⟨version, valid, ⟨nowhere, same⟩ | ⟨path, terms, starts⟩⟩
  · exact ⟨version, valid, fun _ => goesOn_of_nowhere nowhere same⟩
  · exact ⟨version, valid, fun _ => goesOn_of_starts valid starts⟩

def atHome : Service := ⟨Installation.atHome, "2.16.0"⟩

def sampleInquiries : List Inquiry :=
  [⟨"GET", "/v1/db/status?target=1.0.0"⟩, ⟨"HEAD", "/v1/ready"⟩, ⟨"GET", "/v1/version"⟩]

theorem goes_on_atHome :
    (∃ summary, (Installation.homeDisk.visit atHome.installation.path atHome.start).1 = .ok summary) ∧
      Address.IsPlain atHome.installation.path ∧
      (atHome.afterInquiries (atHome.begun Installation.homeDisk) sampleInquiries).texts
          atHome.installation.path =
        (atHome.begun Installation.homeDisk).texts atHome.installation.path ∧
      atHome.Serves (atHome.afterInquiries (atHome.begun Installation.homeDisk) sampleInquiries)
        (.release 2 16 0) := by
  have started : (Installation.homeDisk.visit atHome.installation.path
      atHome.start).1.toOption.isSome = true := by decide +kernel
  rcases Option.isSome_iff_exists.mp started with ⟨summary, started⟩
  have started := Installation.ok_of_toOption started
  have plain : Address.IsPlain atHome.installation.path := rfl
  have target : Address.target? atHome.installation.path Installation.homeDisk.home =
      some ["home", "kvmigrate.sqlite3"] := by decide +kernel
  have room : Path.HasRoom ["home", "kvmigrate.sqlite3"] := by decide
  have located : Installation.homeDisk.locate atHome.installation.path =
      .ok ["home", "kvmigrate.sqlite3"] := Installation.ok_of_toOption (by decide +kernel)
  rcases goes_on_of_started started with ⟨version, valid, goesOn⟩
  have same : Version.read "2.16.0" = .ok (.release 2 16 0) := rfl
  cases valid.symm.trans same
  have goes := goesOn sampleInquiries
  exact ⟨⟨summary, started⟩, plain, goes.texts,
    (goes.serves_iff_of_plain _ plain target room).mpr ⟨_, located⟩⟩

def steppedBack : Service := ⟨Installation.steppedBack, "2.16.0"⟩

/-- The start migrates the database, and then the service is not ready: it looks for the database
where the path leads nowhere. -/
theorem unready_steppedBack :
    (∃ summary, (Installation.homeDisk.visit steppedBack.installation.path
        steppedBack.start).1 = .ok summary) ∧
      (steppedBack.answer (steppedBack.begun Installation.homeDisk) ⟨"GET", "/v1/ready"⟩).1.status =
        500 ∧
      ¬ steppedBack.Serves (steppedBack.begun Installation.homeDisk) (.release 2 16 0) := by
  have started : (Installation.homeDisk.visit steppedBack.installation.path
      steppedBack.start).1.toOption.isSome = true := by decide +kernel
  rcases Option.isSome_iff_exists.mp started with ⟨summary, started⟩
  have refused : (steppedBack.answer (steppedBack.begun Installation.homeDisk)
      ⟨"GET", "/v1/ready"⟩).1.status = 500 := by decide +kernel
  refine ⟨⟨summary, Installation.ok_of_toOption started⟩, refused, ?_⟩
  rintro ⟨record, tells⟩
  rw [tells.ready] at refused
  have impossible : 200 = 500 := refused
  cases impossible

end Service

end StoreMigration
