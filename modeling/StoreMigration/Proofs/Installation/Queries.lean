import StoreMigration.Proofs.Installation.Identity

/-! Asking leaves no trace. What is asked of an installation, and a migration that is only
planned, may open its database, bring the layout up to date and make sure of the bucket, but
never touches an object, however far it gets. Where the path leads to nothing, nothing is
opened: the status is that of a new installation, and every other question is refused. -/

namespace StoreMigration.Installation

open Bookkeeping

/-! ## Calls that only look -/

inductive Call.Asks : Call → Prop
  | status (target : String) : Asks (.status target)
  | currentVersion : Asks .currentVersion
  | currentEdition : Asks .currentEdition
  | instanceId : Asks .instanceId
  | isUpdating : Asks .isUpdating

/-- The call asks for something or plans a migration without carrying it out. -/
inductive Call.Looks : Call → Prop
  | asks {call : Call} (asks : call.Asks) : Looks call
  | plans (target : String) : Looks (.migrate target true)

def Keeps (before : Objects String) (_ : Except Failure α) (after : Objects String) : Prop :=
  after = before

section Looking

variable {installation : Installation} {disk : Disk} {site : Site} {action : Action Failure α}

theorem keeps_perform (looks : action.KeepsTo LooksUp) :
    installation.Leads Keeps site (installation.perform action site) :=
  leads_perform (fun _ _ => rfl) (texts_of_looksUp looks)

theorem keeps_ask (looks : action.KeepsTo LooksUp) :
    installation.Leads Keeps site (installation.ask action site) :=
  leads_ask (fun _ _ => rfl) (texts_of_looksUp looks)

theorem keeps_status (target : String) :
    installation.Leads Keeps site (installation.status target site) :=
  leads_status (fun _ _ => rfl) (texts_of_looksUp (looksUp_survey target))

theorem texts_visit {use : Site → Except Failure α × Site}
    (keeps : ∀ site, installation.Leads Keeps site (use site)) :
    (disk.visit installation.path use).2.texts installation.path = disk.texts installation.path :=
  Disk.fits_visit keeps fun _ _ _ => rfl

theorem texts_carryOut {call : Call} (looks : call.Looks) :
    (installation.carryOut disk call).2.texts installation.path = disk.texts installation.path := by
  have visited : ∀ {β : Type} {use : Site → Except Failure β × Site},
      (∀ site, installation.Leads Keeps site (use site)) →
        (untold (disk.visit installation.path use)).2.texts installation.path =
          disk.texts installation.path := texts_visit
  cases looks with
  | plans target =>
      exact visited fun site => keeps_perform (looksUp_plannedMigration target)
  | asks asks =>
      cases asks with
      | status target => exact visited fun site => keeps_status target
      | currentVersion => exact visited fun site => keeps_ask looksUp_readRecord
      | currentEdition =>
          exact visited fun site => keeps_ask (Action.keepsTo_map _ looksUp_readRecord)
      | instanceId =>
          exact visited fun site => keeps_ask (Action.keepsTo_map _ looksUp_readRecord)
      | isUpdating => exact visited fun site => keeps_ask looksUp_readFlag

end Looking

/-! ## A survey -/

variable {installation : Installation} {target : String} {version : Version}

theorem run_survey {tables prepared : Buckets String} {source : RecordSource}
    {record : VersionRecord} {plan : Plan} {found : Option VersionRecord} {flag : Option Bool}
    (ensured : tables.ensure bucket = prepared) (valid : Version.read target = .ok version)
    (starts : Database.tablesStorage.StartsFrom installation.migrator version prepared source record)
    (planned : Plan.ofRecord installation.migrator.registry record version = .ok plan)
    (recorded : Database.tablesStorage.entry VersionRecord.ofJson recordKey prepared = .ok found)
    (flagged : Database.tablesStorage.entry Json.decodeBool updatingKey prepared = .ok flag) :
    (installation.survey target).run Database.tablesBackend tables =
      (.ok (found, ⟨source, plan⟩, flag.getD false), prepared) := by
  have faithful := Database.tablesStorage_faithful
  have looked := faithful.run_getAs VersionRecord.ofJson recordKey prepared
  have made : (installation.migrator.plan target).run Database.tablesBackend prepared = _ :=
    faithful.run_plan valid starts planned
  have asked := faithful.run_getAs Json.decodeBool updatingKey prepared
  rw [recorded] at looked
  rw [flagged] at asked
  have told : Bookkeeping.isUpdating.run Database.tablesBackend prepared =
      (.ok (flag.getD false), prepared) := Action.run_bind_of_ok asked _
  subst ensured
  apply (run_of_prepared rfl _).trans
  apply (Action.run_bind_of_ok (Action.run_withError looked (Failure.ofStore .readingRecord)) _).trans
  apply (Action.run_bind_of_ok
    (Action.run_withError made (Failure.ofMigration (.planning target))) _).trans
  exact Action.run_bind_of_ok (Action.run_withError told (Failure.ofStore .readingFlag)) _

/-! ## Where there is nothing -/

def freshReport (installation : Installation) (version : Version) : StatusReport :=
  statusReport Database.unappliedLayout (none, ⟨.freshInstall,
    Plan.make installation.migrator.registry version
      (.fresh version installation.edition installation.newInstanceId) version⟩, false)

theorem run_survey_blank (valid : Version.read target = .ok version) :
    ((installation.survey target).run Site.transient.backend blankOpened).1 =
      .ok (none, ⟨.freshInstall, Plan.make installation.migrator.registry version
        (.fresh version installation.edition installation.newInstanceId) version⟩, false) := by
  have grants : Site.transient.Grants blankOpened := ⟨rfl, rfl⟩
  have absent : ∀ key, Database.tablesStorage.objects (Buckets.empty.ensure bucket) bucket key = none :=
    fun key => congrFun (congrFun (Buckets.read_ensure_eq Buckets.empty bucket) bucket) key
  have unrecorded := Storage.entry_of_absent VersionRecord.ofJson (absent recordKey)
  have unnumbered := Storage.entry_of_absent Json.decodeInt64 (absent Legacy.versionKey)
  have unflagged := Storage.entry_of_absent Json.decodeBool (absent updatingKey)
  have parsed : (VersionRecord.fresh version installation.edition
      installation.newInstanceId).parsedVersion = .ok version := Version.read_text version
  have planned := Plan.ofRecord_of_parsed installation.migrator.registry version parsed
  rw [fst_run_of_grants grants]
  exact congrArg Prod.fst
    (run_survey rfl valid (.fresh unrecorded unnumbered) planned unrecorded unflagged)

section Missing

variable {site : Site} {disk : Disk} {action : Action Failure α}

theorem ask_of_absent (absent : site.isPresent = false) (action : Action Failure α) :
    installation.ask action site = (.error (.of (.databaseMissing installation.path)), site) := by
  rw [ask, absent, if_neg Bool.false_ne_true]

theorem status_eq_of_absent (absent : site.isPresent = false)
    (valid : Version.read target = .ok version) :
    installation.status target site = (.ok (installation.freshReport version), site) := by
  have opens : installation.openSite Site.transient = .ok blankOpened := rfl
  rw [status, absent, if_neg Bool.false_ne_true, perform, visit, opens]
  simp only [run_survey_blank valid]
  rfl

theorem site_of_status_of_absent (absent : site.isPresent = false) (target : String) :
    (installation.status target site).2 = site := by
  rw [status, absent, if_neg Bool.false_ne_true]

/-- Where the text of the path leads to nothing, a new installation is reported, and all else
that is asked is refused. -/
structure AnswersAsMissing (installation : Installation) (disk : Disk) : Prop where
  status : ∀ target version, Version.read target = .ok version →
    (disk.visit installation.path (installation.status target)).1 =
      .ok (installation.freshReport version)
  currentVersion : (disk.visit installation.path installation.currentVersion).1 =
    .error (.of (.databaseMissing installation.path))
  currentEdition : (disk.visit installation.path installation.currentEdition).1 =
    .error (.of (.databaseMissing installation.path))
  instanceId : (disk.visit installation.path installation.instanceId).1 =
    .error (.of (.databaseMissing installation.path))
  isUpdating : (disk.visit installation.path installation.isUpdating).1 =
    .error (.of (.databaseMissing installation.path))

theorem absent_of_missing (missing : disk.lookUp installation.path = none) :
    (disk.site installation.path).isPresent = false := by
  rw [Disk.isPresent_site, missing]
  rfl

theorem answersAsMissing (missing : disk.lookUp installation.path = none) :
    installation.AnswersAsMissing disk := by
  have absent := absent_of_missing missing
  have refused : ∀ {β : Type} (action : Action Failure β),
      (disk.visit installation.path (installation.ask action)).1 =
        .error (.of (.databaseMissing installation.path)) :=
    fun action => congrArg Prod.fst (ask_of_absent absent action)
  constructor
  · intro target version valid
    exact congrArg Prod.fst (status_eq_of_absent absent valid)
  · exact refused _
  · exact refused _
  · exact refused _
  · exact refused _

theorem carryOut_of_missing {call : Call} (asks : call.Asks)
    (missing : disk.lookUp installation.path = none) :
    (installation.carryOut disk call).2 = disk := by
  have absent := absent_of_missing missing
  have unopened : ∀ {β : Type} {use : Site → Except Failure β × Site},
      (use (disk.site installation.path)).2 = disk.site installation.path →
        (untold (disk.visit installation.path use)).2 = disk := by
    intro β use same
    show disk.settle _ (use (disk.site installation.path)).2 = disk
    rw [same, Disk.settle_of_unopened (Disk.isOpened_site disk _)]
  cases asks with
  | status target => exact unopened (site_of_status_of_absent absent target)
  | currentVersion => exact unopened (congrArg Prod.snd (ask_of_absent absent _))
  | currentEdition => exact unopened (congrArg Prod.snd (ask_of_absent absent _))
  | instanceId => exact unopened (congrArg Prod.snd (ask_of_absent absent _))
  | isUpdating => exact unopened (congrArg Prod.snd (ask_of_absent absent _))

end Missing

/-! ## Calls after one another -/

variable {disk : Disk} {turns : List Turn}

theorem storedAfter_of_looks (looks : ∀ turn ∈ turns, turn.call.Looks) :
    installation.storedAfter disk turns = disk.texts installation.path := by
  refine holds_afterTurns
    (fun now => now.texts installation.path = disk.texts installation.path) ?_ rfl
  intro turn member now same
  exact (texts_carryOut (looks turn member)).trans same

theorem afterTurns_of_missing (missing : disk.lookUp installation.path = none)
    (asks : ∀ turn ∈ turns, turn.call.Asks) : installation.afterTurns disk turns = disk := by
  refine holds_afterTurns (fun now => now = disk) ?_ rfl
  rintro turn member now rfl
  exact carryOut_of_missing (asks turn member) missing

/-- Looking at an installation, as often and in whatever order, changes no object of it. Where
its path leads to nothing the disk stays as it is, and every question is answered so. -/
theorem leaves_no_trace (looks : ∀ turn ∈ turns, turn.call.Looks) :
    (∀ earlier later, turns = earlier ++ later →
      installation.storedAfter disk earlier = disk.texts installation.path) ∧
    (disk.lookUp installation.path = none → installation.AnswersAsMissing disk ∧
      ((∀ turn ∈ turns, turn.call.Asks) → ∀ earlier later, turns = earlier ++ later →
        installation.afterTurns disk earlier = disk)) := by
  constructor
  · rintro earlier later rfl
    exact storedAfter_of_looks fun turn member => looks turn (List.mem_append_left later member)
  · intro missing
    refine ⟨answersAsMissing missing, ?_⟩
    rintro asks earlier later rfl
    exact afterTurns_of_missing missing fun turn member =>
      asks turn (List.mem_append_left later member)

def lookingTurns : List Turn :=
  [⟨.status "2.16.0", "01J0000000000000000000000C"⟩,
    ⟨.migrate "2.16.0" true, "01J0000000000000000000000D"⟩,
    ⟨.isUpdating, "01J0000000000000000000000E"⟩]

/-- They leave the record that is to be migrated, and find none on a disk that is bare. -/
theorem leaves_no_trace_atHome :
    let bare : Disk := ⟨["home"], [(["home"], .directory)]⟩
    (∀ turn ∈ lookingTurns, turn.call.Looks) ∧
      (homeDisk.texts atHome.path).Records behind ∧
      (atHome.storedAfter homeDisk lookingTurns).Records behind ∧
      bare.lookUp atHome.path = none ∧ atHome.AnswersAsMissing bare := by
  intro bare
  have looks : ∀ turn ∈ lookingTurns, turn.call.Looks := by
    intro turn member
    simp only [lookingTurns, List.mem_cons, List.not_mem_nil, or_false] at member
    rcases member with rfl | rfl | rfl
    · exact .asks (.status _)
    · exact .plans _
    · exact .asks .isUpdating
  have recorded : (homeDisk.texts atHome.path).Records behind := ok_of_toOption (by decide +kernel)
  have missing : bare.lookUp atHome.path = none := Option.isNone_iff_eq_none.mp (by decide +kernel)
  have kept : atHome.storedAfter homeDisk lookingTurns = homeDisk.texts atHome.path :=
    (leaves_no_trace looks).1 lookingTurns [] rfl
  have answered : atHome.AnswersAsMissing bare := ((leaves_no_trace looks).2 missing).1
  exact ⟨looks, recorded, kept ▸ recorded, missing, answered⟩

end StoreMigration.Installation
