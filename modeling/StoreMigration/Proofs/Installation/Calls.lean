import StoreMigration.Proofs.Installation.Visits
import StoreMigration.Proofs.Migration.Recording

/-! What one call on an installation makes of its record. `Evolves` has the things that can
become of it: it is kept, it gets another id, or a migration leaves it with another version or
makes it. Every call comes to one of them (`evolves_carryOut`). -/

namespace StoreMigration

open Bookkeeping

/-! ## Stored records -/

namespace Objects

def entry (objects : Objects String) (decode : Json → Json.Decoded β) (key : String) :
    Except StoreError (Option β) :=
  Action.decodeAnswer decode bucket key (objects.answer Database.decode bucket key)

def Records (objects : Objects String) (record : VersionRecord) : Prop :=
  objects.entry VersionRecord.ofJson recordKey = .ok (some record)

/-- There is no record, or it can be read, and so can its version. -/
def Sound (objects : Objects String) : Prop :=
  objects bucket recordKey = Option.none ∨
    ∃ record version, objects.Records record ∧ record.parsedVersion = .ok version

/-- The edition and the id with which an installation gets its record: those under the legacy
keys, or, where there is no legacy number, those of a new installation. -/
inductive Introduces (objects : Objects String) (installation : Installation) :
    Edition → String → Prop
  | legacy {number edition : Int64} {instanceId : String}
      (numbered : objects.entry Json.decodeInt64 Legacy.versionKey = .ok (some number))
      (edited : objects.entry Json.decodeInt64 Legacy.editionKey = .ok (some edition))
      (identified : objects.entry Json.decodeString Legacy.instanceKey = .ok (some instanceId)) :
      Introduces objects installation ⟨edition⟩ instanceId
  | fresh (unnumbered : objects bucket Legacy.versionKey = Option.none) :
      Introduces objects installation installation.edition installation.newInstanceId

variable {objects other : Objects String} {record another : VersionRecord}

theorem Records.congr (recorded : other.Records record)
    (same : objects bucket recordKey = other bucket recordKey) : objects.Records record := by
  rw [Records, entry, answer, same]
  exact recorded

theorem Records.unique (recorded : objects.Records record) (recordedToo : objects.Records another) :
    record = another := by
  cases recorded.symm.trans recordedToo
  rfl

theorem Records.present (recorded : objects.Records record) :
    objects bucket recordKey ≠ Option.none := by
  intro absent
  rw [Records, entry, answer, absent] at recorded
  cases recorded

theorem not_records_none : ¬ (none : Objects String).Records record :=
  fun recorded => recorded.present rfl

theorem Sound.readable (sound : objects.Sound) (present : objects bucket recordKey ≠ Option.none) :
    ∃ record version, objects.Records record ∧ record.parsedVersion = .ok version :=
  sound.resolve_left present

theorem Sound.parsed (sound : objects.Sound) (recorded : objects.Records record) :
    ∃ version, record.parsedVersion = .ok version := by
  rcases sound.readable recorded.present with ⟨other, version, recordedToo, parsed⟩
  cases recorded.unique recordedToo
  exact ⟨version, parsed⟩

theorem Sound.congr (sound : other.Sound)
    (same : objects bucket recordKey = other bucket recordKey) : objects.Sound := by
  rcases sound with absent | ⟨record, version, recorded, parsed⟩
  · exact .inl (same.trans absent)
  · exact .inr ⟨record, version, recorded.congr same, parsed⟩

end Objects

/-! ## Databases at a site -/

namespace Site

variable {site : Site} {opened left : Database}

theorem objects_storage (site : Site) : site.storage.objects = Database.texts := by
  cases refusal : site.refusal <;> simp only [storage, refusal] <;> rfl

theorem entry_storage (site : Site) (decode : Json → Json.Decoded β) (key : String)
    (opened : Database) : site.storage.entry decode key opened = opened.texts.entry decode key := by
  cases refusal : site.refusal <;> simp only [storage, refusal] <;> rfl

theorem texts_eq_of_objects (same : site.storage.objects left = site.storage.objects opened) :
    left.texts = opened.texts := by
  rw [objects_storage] at same
  exact same

theorem recordObject_eq_iff : site.storage.recordObject left = site.storage.recordObject opened ↔
    left.texts bucket recordKey = opened.texts bucket recordKey := by
  rw [Storage.recordObject, Storage.recordObject, objects_storage]

theorem absent_of_entry {decode : Json → Json.Decoded β} {key : String}
    (known : site.storage.entry decode key opened = .ok none) :
    opened.texts bucket key = none := by
  rw [← objects_storage site]
  exact Storage.absent_of_entry known

theorem runs {action : Action ε β} {result : Except ε β}
    (ran : action.run site.backend opened = (result, left)) :
    ∃ history, action.Runs site.storage.backend opened result history left := by
  rw [← site.backend_storage] at ran
  exact ⟨_, ran, rfl⟩

end Site

namespace Installation

variable {installation : Installation} {site : Site} {opened left : Database} {target : String}

/-! ## Calls -/

inductive Call where
  | status (target : String)
  | migrate (target : String) (dryRun : Bool)
  | currentVersion
  | currentEdition
  | instanceId
  | isUpdating
  | setInstanceId (text : String)
  | backup (backup : String)

def untold (ended : Except Failure α × Disk) : Except Failure Unit × Disk :=
  (ended.1.map fun _ => (), ended.2)

def carryOut (installation : Installation) (disk : Disk) : Call → Except Failure Unit × Disk
  | .status target => untold (disk.visit installation.path (installation.status target))
  | .migrate target dryRun =>
      untold (disk.visit installation.path (installation.migrate target dryRun))
  | .currentVersion => untold (disk.visit installation.path installation.currentVersion)
  | .currentEdition => untold (disk.visit installation.path installation.currentEdition)
  | .instanceId => untold (disk.visit installation.path installation.instanceId)
  | .isUpdating => untold (disk.visit installation.path installation.isUpdating)
  | .setInstanceId text => untold (disk.visit installation.path (installation.setInstanceId text))
  | .backup backup => installation.backup backup disk

/-- What a call may make of the objects of an installation. -/
inductive Evolves (installation : Installation) (call : Call) (before : Objects String) :
    Except Failure Unit → Objects String → Prop
  | kept {outcome : Except Failure Unit} {after : Objects String}
      (same : after bucket recordKey = before bucket recordKey)
      (unset : ∀ text, call = .setInstanceId text → outcome ≠ .ok ()) :
      Evolves installation call before outcome after
  | identified {text : String} {record : VersionRecord} {after : Objects String}
      (asked : call = .setInstanceId text) (named : Text.trim text ≠ "")
      (recorded : before.Records record)
      (changed : after.Records { record with instanceId := Text.trim text }) :
      Evolves installation call before (.ok ()) after
  | migrated {target : String} {outcome : Except Failure Unit} {record left : VersionRecord}
      {version : Version} {after : Objects String} (asked : call = .migrate target false)
      (recorded : before.Records record) (sameEdition : left.edition = record.edition)
      (sameId : left.instanceId = record.instanceId) (parsed : left.parsedVersion = .ok version)
      (changed : after.Records left) : Evolves installation call before outcome after
  | created {target : String} {outcome : Except Failure Unit} {record : VersionRecord}
      {version : Version} {after : Objects String} (asked : call = .migrate target false)
      (unrecorded : before bucket recordKey = none)
      (introduces : before.Introduces installation record.edition record.instanceId)
      (parsed : record.parsedVersion = .ok version) (recorded : after.Records record) :
      Evolves installation call before outcome after

def Fits (installation : Installation) (call : Call) (before : Objects String)
    (result : Except Failure α) (after : Objects String) : Prop :=
  installation.Evolves call before (result.map fun _ => ()) after

section Fits

variable {call : Call} {objects before after : Objects String} {action : Action Failure α}
  {result : Except Failure α}

theorem fits_of_other (other : ∀ text, call ≠ .setInstanceId text)
    (same : after bucket recordKey = before bucket recordKey) :
    installation.Fits call before result after :=
  .kept same fun text asked => absurd asked (other text)

theorem fits_of_error {failure : Failure}
    (same : after bucket recordKey = before bucket recordKey) :
    installation.Fits call before (.error failure : Except Failure α) after :=
  .kept same nofun

theorem fits_still (failure : Failure) (objects : Objects String) :
    installation.Fits call objects (.error failure : Except Failure α) objects :=
  fits_of_error rfl

theorem fits_vanished (fits : installation.Fits call Objects.none result after) :
    installation.Fits call Objects.none result Objects.none := by
  rw [Fits] at fits ⊢
  generalize (result.map fun _ => ()) = outcome at fits ⊢
  cases fits with
  | kept same unset => exact .kept rfl unset
  | identified asked named recorded changed => exact absurd recorded Objects.not_records_none
  | migrated asked recorded sameEdition sameId parsed changed =>
      exact absurd recorded Objects.not_records_none
  | created asked unrecorded introduces parsed recorded =>
      subst asked
      exact .kept rfl nofun

end Fits

/-! ## Reading -/

section Reading

def LooksUp (request : Request) : Prop :=
  request.isWrite = false ∨ request = .ensureBucket bucket

theorem looksUp_of_onlyReads {action : Action ε β} (reads : action.OnlyReads) :
    action.KeepsTo LooksUp :=
  Program.keepsTo_mono reads fun _ => .inl

theorem looksUp_prepare : prepare.KeepsTo LooksUp := by
  have ensures : LooksUp (.ensureBucket bucket) := .inr rfl
  exact Action.keepsTo_withError _ (Action.keepsTo_request ensures)

theorem looksUp_readRecord : readRecord.KeepsTo LooksUp :=
  Action.keepsTo_bind looksUp_prepare fun _ =>
    Action.keepsTo_withError _ (looksUp_of_onlyReads onlyReads_record)

theorem looksUp_readFlag : readFlag.KeepsTo LooksUp :=
  Action.keepsTo_bind looksUp_prepare fun _ =>
    Action.keepsTo_withError _ (looksUp_of_onlyReads onlyReads_isUpdating)

theorem looksUp_plan (target : String) :
    ((installation.migrator.plan target).withError (Failure.ofMigration (.planning target))).KeepsTo
      LooksUp :=
  Action.keepsTo_withError _ (looksUp_of_onlyReads (installation.migrator.onlyReads_plan target))

theorem looksUp_plannedMigration (target : String) :
    (installation.plannedMigration target).KeepsTo LooksUp := by
  apply Action.keepsTo_bind looksUp_prepare
  intro _
  exact Action.keepsTo_bind (looksUp_plan target) fun _ => Action.keepsTo_pure _

theorem looksUp_survey (target : String) : (installation.survey target).KeepsTo LooksUp := by
  apply Action.keepsTo_bind looksUp_prepare
  intro _
  apply Action.keepsTo_bind
  · exact Action.keepsTo_withError _
      (looksUp_of_onlyReads (Action.onlyReads_getAs VersionRecord.ofJson recordKey))
  intro _
  apply Action.keepsTo_bind (looksUp_plan target)
  intro _
  apply Action.keepsTo_bind
  · exact Action.keepsTo_withError _ (looksUp_of_onlyReads onlyReads_isUpdating)
  exact fun _ => Action.keepsTo_pure _

theorem leaves_of_looksUp (other key : String) {request : Request} (looks : LooksUp request) :
    request.Leaves other key := by
  rcases looks with harmless | rfl
  · exact Request.leaves_of_harmless other key harmless
  · trivial

theorem texts_of_looksUp {action : Action ε β} {result : Except ε β} (looks : action.KeepsTo LooksUp)
    (ran : action.run site.backend opened = (result, left)) : left.texts = opened.texts := by
  rcases Site.runs ran with ⟨_, runs⟩
  apply Site.texts_eq_of_objects
  funext other key
  exact (site.storage.leftAlone
    (Program.keepsTo_mono looks fun _ => leaves_of_looksUp other key) runs).2

theorem fits_of_looksUp {call : Call} {action : Action Failure α} {result : Except Failure α}
    (other : ∀ text, call ≠ .setInstanceId text) (looks : action.KeepsTo LooksUp)
    (ran : action.run site.backend opened = (result, left)) :
    installation.Fits call opened.texts result left.texts :=
  fits_of_other other (by rw [texts_of_looksUp looks ran])

end Reading

/-! ## Writing -/

theorem texts_of_prepare {result : Except Failure Unit} {history : List (Exchange Database)}
    (ensures : prepare.Runs site.storage.backend opened result history left) :
    left.texts = opened.texts :=
  texts_of_looksUp looksUp_prepare (site.backend_storage ▸ ensures.run_eq)

theorem evolves_of_startsFrom {version named : Version} {source : RecordSource}
    {record after : VersionRecord} {outcome : Except Failure Unit}
    (starts : site.storage.StartsFrom installation.migrator version opened source record)
    (sameEdition : after.edition = record.edition) (sameId : after.instanceId = record.instanceId)
    (parsed : after.parsedVersion = .ok named) (recorded : left.texts.Records after) :
    installation.Evolves (.migrate target false) opened.texts outcome left.texts := by
  cases starts with
  | existing recordedBefore =>
      rw [Site.entry_storage] at recordedBefore
      exact .migrated rfl recordedBefore sameEdition sameId parsed recorded
  | legacy unrecorded has =>
      refine .created rfl (Site.absent_of_entry unrecorded) ?_ parsed recorded
      rcases has with ⟨numbered, edited, identified, _⟩
      rw [Site.entry_storage] at numbered edited identified
      rw [sameEdition, sameId]
      exact .legacy numbered edited identified
  | fresh unrecorded unnumbered =>
      refine .created rfl (Site.absent_of_entry unrecorded) ?_ parsed recorded
      rw [sameEdition, sameId]
      exact .fresh (Site.absent_of_entry unnumbered)

/-- A migration that is called for makes sure of the bucket and plans, and then it is run unless
one of these fails. -/
theorem reached_of_completedMigration {result : Except Failure MigrationSummary}
    (ran : (installation.completedMigration target).run site.backend opened = (result, left)) :
    left.texts = opened.texts ∨ ∃ reached history outcome, reached.texts = opened.texts ∧
      (installation.migrator.run target).Runs site.storage.backend reached outcome history
        left := by
  rcases Site.runs ran with ⟨_, runs⟩
  rcases runs.bind_cases with ⟨_, ensures, _⟩ | ⟨_, _, prepared, _, ensures, oncePrepared, _⟩
  · exact .inl (texts_of_prepare ensures)
  have reads : ((installation.migrator.plan target).attempt :
      Action Failure (Except MigrationError PlanOutcome)).OnlyReads :=
    Action.keepsTo_attempt (installation.migrator.onlyReads_plan target)
  rcases oncePrepared.bind_cases with ⟨_, plans, _⟩ | ⟨_, _, reached, _, plans, oncePlanned, _⟩
  · have looked := Site.texts_eq_of_objects (Storage.looks_of_onlyReads reads plans).left
    exact .inl (looked.trans (texts_of_prepare ensures))
  have looked := Site.texts_eq_of_objects (Storage.looks_of_onlyReads reads plans).left
  have same : reached.texts = opened.texts := looked.trans (texts_of_prepare ensures)
  rcases oncePlanned.bind_cases with ⟨_, told, _⟩ | ⟨_, _, middle, _, told, last, _⟩
  · rcases told.of_withError with ⟨outcome, migrates, _⟩
    exact .inr ⟨reached, _, outcome, same, migrates⟩
  · rcases last.unique (.pure _ _) with ⟨_, _, rfl⟩
    rcases told.of_withError with ⟨outcome, migrates, _⟩
    exact .inr ⟨reached, _, outcome, same, migrates⟩

theorem fits_completedMigration {result : Except Failure MigrationSummary}
    (ran : (installation.completedMigration target).run site.backend opened = (result, left)) :
    installation.Fits (.migrate target false) opened.texts result left.texts := by
  rcases reached_of_completedMigration ran with same | ⟨reached, history, outcome, same, migrates⟩
  · exact fits_of_other nofun (by rw [same])
  rw [← same]
  rcases Migrator.recorded_of_run Releases.registry_spares migrates with
    kept | ⟨_, _, record, after, named, starts, sameEdition, sameId, parsed, recorded⟩
  · exact fits_of_other nofun (Site.recordObject_eq_iff.mp kept)
  · rw [Site.entry_storage] at recorded
    exact evolves_of_startsFrom starts sameEdition sameId parsed recorded

theorem fits_storeInstanceId {text : String} {result : Except Failure VersionRecord}
    (named : Text.trim text ≠ "")
    (ran : (storeInstanceId (Text.trim text)).run site.backend opened = (result, left)) :
    installation.Fits (.setInstanceId text) opened.texts result left.texts := by
  rcases Site.runs ran with ⟨_, runs⟩
  rcases runs.bind_cases with ⟨_, ensures, rfl⟩ | ⟨_, _, prepared, _, ensures, told, _⟩
  · exact fits_of_error (by rw [texts_of_prepare ensures])
  have ensured : site.storage.recordObject prepared = site.storage.recordObject opened :=
    Site.recordObject_eq_iff.mpr (by rw [texts_of_prepare ensures])
  rcases told.of_withError with ⟨own, changes, rfl⟩
  rcases changed_of_setInstanceId changes with
    ⟨⟨error, rfl⟩, kept⟩ | ⟨record, rfl, readable, stored⟩
  · exact fits_of_error (Site.recordObject_eq_iff.mp (kept.trans ensured))
  · have recorded := Storage.entry_of_record ((Storage.record_congr ensured).symm.trans readable)
    have changed := Storage.entry_of_recorded stored
    rw [Site.entry_storage] at recorded changed
    exact .identified rfl named recorded changed

theorem leads_setInstanceId (text : String) (site : Site) :
    installation.Leads (installation.Fits (.setInstanceId text)) site
      (installation.setInstanceId text site) := by
  rw [setInstanceId]
  split
  · exact .aside (fits_still _)
  · next named => exact leads_perform fits_still (fits_storeInstanceId named)

/-! ## Every call -/

@[simp] theorem home_carryOut (installation : Installation) (disk : Disk) (call : Call) :
    (installation.carryOut disk call).2.home = disk.home := by
  cases call with
  | backup backup => exact home_backup installation backup disk
  | _ => exact Disk.home_settle disk _ _

/-- A call makes of what is stored under the path of an installation what `Evolves` says, unless
it is a backup that takes the database for a file of its own. -/
theorem evolves_carryOut (installation : Installation) (disk : Disk) (call : Call)
    (apart : ∀ backup, call = .backup backup → installation.ApartFrom backup disk.home) :
    installation.Evolves call (disk.texts installation.path) (installation.carryOut disk call).1
      ((installation.carryOut disk call).2.texts installation.path) := by
  have visited : ∀ {β : Type} {use : Site → Except Failure β × Site},
      (∀ site, installation.Leads (installation.Fits call) site (use site)) →
        installation.Evolves call (disk.texts installation.path)
          (untold (disk.visit installation.path use)).1
          ((untold (disk.visit installation.path use)).2.texts installation.path) :=
    fun leads => Disk.fits_visit leads fun _ _ => fits_vanished
  cases call with
  | status target =>
      exact visited fun site => leads_status (fun _ _ => fits_of_other nofun rfl) fun surveyed =>
        fits_of_other nofun (by rw [texts_of_looksUp (looksUp_survey target) surveyed])
  | migrate target dryRun =>
      cases dryRun with
      | true =>
          exact visited fun site =>
            leads_perform fits_still (fits_of_looksUp nofun (looksUp_plannedMigration target))
      | false => exact visited fun site => leads_perform fits_still fits_completedMigration
  | currentVersion => exact visited fun site => leads_ask fits_still (fits_of_looksUp nofun looksUp_readRecord)
  | currentEdition =>
      exact visited fun site =>
        leads_ask fits_still (fits_of_looksUp nofun (Action.keepsTo_map _ looksUp_readRecord))
  | instanceId =>
      exact visited fun site =>
        leads_ask fits_still (fits_of_looksUp nofun (Action.keepsTo_map _ looksUp_readRecord))
  | isUpdating => exact visited fun site => leads_ask fits_still (fits_of_looksUp nofun looksUp_readFlag)
  | setInstanceId text => exact visited (leads_setInstanceId text)
  | backup backup =>
      refine .kept ?_ nofun
      rw [carryOut, texts_backup (apart backup rfl)]

end Installation

end StoreMigration
