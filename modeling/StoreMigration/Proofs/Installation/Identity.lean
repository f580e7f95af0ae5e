import Mathlib.Data.List.Induction
import StoreMigration.Proofs.Installation.Agreement
import StoreMigration.Proofs.Installation.Calls

/-! The identity of an installation through any calls, one after the other. Once it has a
record it always has one that can be read, of the same edition; the id is what it was last set
to, and the version is what the last migration left. -/

namespace StoreMigration

open Bookkeeping

namespace Installation

/-! ## One call -/

namespace Evolves

variable {installation : Installation} {call : Call} {before after : Objects String}
  {outcome : Except Failure Unit} {record left : VersionRecord}

theorem sound (evolves : installation.Evolves call before outcome after) (sound : before.Sound) :
    after.Sound := by
  cases evolves with
  | kept same _ => exact sound.congr same
  | identified _ _ recorded changed =>
      rcases sound.parsed recorded with ⟨version, parsed⟩
      exact .inr ⟨_, version, changed, parsed⟩
  | migrated _ _ _ _ parsed changed => exact .inr ⟨_, _, changed, parsed⟩
  | created _ _ _ parsed recorded => exact .inr ⟨_, _, recorded, parsed⟩

theorem lasting (evolves : installation.Evolves call before outcome after)
    (recorded : before.Records record) :
    ∃ left, after.Records left ∧ left.edition = record.edition := by
  cases evolves with
  | kept same _ => exact ⟨record, recorded.congr same, rfl⟩
  | identified _ _ recordedToo changed =>
      cases recorded.unique recordedToo
      exact ⟨_, changed, rfl⟩
  | migrated _ recordedToo sameEdition _ _ changed =>
      cases recorded.unique recordedToo
      exact ⟨_, changed, sameEdition⟩
  | created _ unrecorded _ _ _ => exact absurd unrecorded recorded.present

theorem renamed (evolves : installation.Evolves call before outcome after)
    (recorded : before.Records record) (recordedAfter : after.Records left)
    (renamed : left.instanceId ≠ record.instanceId) :
    ∃ text, call = .setInstanceId text ∧ outcome = .ok () := by
  cases evolves with
  | kept same _ =>
      cases recordedAfter.unique (recorded.congr same)
      exact absurd rfl renamed
  | identified asked _ _ _ => exact ⟨_, asked, rfl⟩
  | migrated _ recordedToo _ sameId _ changed =>
      cases recorded.unique recordedToo
      cases recordedAfter.unique changed
      exact absurd sameId renamed
  | created _ unrecorded _ _ _ => exact absurd unrecorded recorded.present

theorem restamped (evolves : installation.Evolves call before outcome after)
    (recorded : before.Records record) (recordedAfter : after.Records left)
    (restamped : left.schemaVersion ≠ record.schemaVersion ∨
      left.replayCount ≠ record.replayCount) :
    ∃ target, call = .migrate target false := by
  cases evolves with
  | kept same _ =>
      cases recordedAfter.unique (recorded.congr same)
      exact absurd restamped (by simp)
  | identified _ _ recordedToo changed =>
      cases recorded.unique recordedToo
      cases recordedAfter.unique changed
      exact absurd restamped (by simp)
  | migrated asked _ _ _ _ _ => exact ⟨_, asked⟩
  | created asked _ _ _ _ => exact ⟨_, asked⟩

theorem identified_of_ok {text : String}
    (evolves : installation.Evolves (.setInstanceId text) before (.ok ()) after) :
    Text.trim text ≠ "" ∧ ∃ record, before.Records record ∧
      after.Records { record with instanceId := Text.trim text } := by
  cases evolves with
  | kept _ unset => exact absurd rfl (unset text rfl)
  | identified asked named recorded changed =>
      cases asked
      exact ⟨named, _, recorded, changed⟩
  | migrated asked => cases asked
  | created asked => cases asked

theorem introduced (evolves : installation.Evolves call before outcome after)
    (unrecorded : before bucket recordKey = none) (recorded : after.Records record) :
    (∃ target, call = .migrate target false) ∧
      before.Introduces installation record.edition record.instanceId := by
  cases evolves with
  | kept same _ => exact absurd (same.trans unrecorded) recorded.present
  | identified _ _ recordedBefore _ => exact absurd unrecorded recordedBefore.present
  | migrated _ recordedBefore _ _ _ _ => exact absurd unrecorded recordedBefore.present
  | created asked _ introduces _ recordedToo =>
      cases recorded.unique recordedToo
      exact ⟨⟨_, asked⟩, introduces⟩

end Evolves

/-! ## Calls after one another -/

/-- A call, and the id that a new installation would get in it. -/
structure Turn where
  call : Call
  newInstanceId : String

def offered (installation : Installation) (turn : Turn) : Installation :=
  { installation with newInstanceId := turn.newInstanceId }

variable (installation : Installation) (disk : Disk)

def afterTurns (turns : List Turn) : Disk :=
  turns.foldl (fun disk turn => ((installation.offered turn).carryOut disk turn.call).2) disk

def storedAfter (turns : List Turn) : Objects String :=
  (installation.afterTurns disk turns).texts installation.path

def outcomeAfter (earlier : List Turn) (turn : Turn) : Except Failure Unit :=
  ((installation.offered turn).carryOut (installation.afterTurns disk earlier) turn.call).1

structure OneRecord (turns : List Turn) : Prop where
  sound : ∀ earlier later, turns = earlier ++ later → (installation.storedAfter disk earlier).Sound
  /-- A record that is there stays, in the same edition. -/
  lasting : ∀ earlier between later record, turns = earlier ++ between ++ later →
    (installation.storedAfter disk earlier).Records record →
      ∃ left, (installation.storedAfter disk (earlier ++ between)).Records left ∧
        left.edition = record.edition
  /-- The id changes only where another is set. -/
  renamed : ∀ earlier turn later record left, turns = earlier ++ turn :: later →
    (installation.storedAfter disk earlier).Records record →
      (installation.storedAfter disk (earlier ++ [turn])).Records left →
        left.instanceId ≠ record.instanceId →
          ∃ text, turn.call = .setInstanceId text ∧
            installation.outcomeAfter disk earlier turn = .ok ()
  /-- Another id is taken without the white space around it, and changes nothing else. -/
  identified : ∀ earlier turn later text, turns = earlier ++ turn :: later →
    turn.call = .setInstanceId text → installation.outcomeAfter disk earlier turn = .ok () →
      Text.trim text ≠ "" ∧ ∃ record, (installation.storedAfter disk earlier).Records record ∧
        (installation.storedAfter disk (earlier ++ [turn])).Records
          { record with instanceId := Text.trim text }
  /-- The version and the count change only where a migration is carried out. -/
  restamped : ∀ earlier turn later record left, turns = earlier ++ turn :: later →
    (installation.storedAfter disk earlier).Records record →
      (installation.storedAfter disk (earlier ++ [turn])).Records left →
        (left.schemaVersion ≠ record.schemaVersion ∨ left.replayCount ≠ record.replayCount) →
          ∃ target, turn.call = .migrate target false
  /-- Only a migration makes a record, with the legacy identity or with that of a new
  installation. -/
  introduced : ∀ earlier turn later record, turns = earlier ++ turn :: later →
    installation.storedAfter disk earlier bucket recordKey = none →
      (installation.storedAfter disk (earlier ++ [turn])).Records record →
        (∃ target, turn.call = .migrate target false) ∧
          (installation.storedAfter disk earlier).Introduces (installation.offered turn)
            record.edition record.instanceId

/-- No backup takes the database for a file of its own. -/
def BackedUpApart (turns : List Turn) : Prop :=
  ∀ turn ∈ turns, ∀ backup, turn.call = .backup backup → installation.ApartFrom backup disk.home

variable {installation disk} {turns earlier later : List Turn} {turn : Turn}

theorem afterTurns_concat (earlier : List Turn) (turn : Turn) :
    installation.afterTurns disk (earlier ++ [turn]) =
      ((installation.offered turn).carryOut (installation.afterTurns disk earlier) turn.call).2 := by
  rw [afterTurns, List.foldl_append]
  rfl

theorem holds_afterTurns (holds : Disk → Prop)
    (kept : ∀ turn ∈ turns, ∀ now, holds now →
      holds ((installation.offered turn).carryOut now turn.call).2)
    (begins : holds disk) : holds (installation.afterTurns disk turns) := by
  induction turns generalizing disk with
  | nil => exact begins
  | cons turn rest induction =>
      exact induction (fun other member => kept other (List.mem_cons_of_mem turn member))
        (kept turn List.mem_cons_self disk begins)

theorem home_afterTurns (turns : List Turn) :
    (installation.afterTurns disk turns).home = disk.home := by
  refine holds_afterTurns (fun now => now.home = disk.home) ?_ rfl
  intro turn _ now same
  rw [home_carryOut, same]

theorem BackedUpApart.left (apart : installation.BackedUpApart disk (earlier ++ later)) :
    installation.BackedUpApart disk earlier :=
  fun turn member => apart turn (List.mem_append_left later member)

theorem evolves_turn (apart : installation.BackedUpApart disk (earlier ++ turn :: later)) :
    (installation.offered turn).Evolves turn.call (installation.storedAfter disk earlier)
      (installation.outcomeAfter disk earlier turn)
      (installation.storedAfter disk (earlier ++ [turn])) := by
  rw [storedAfter, storedAfter, afterTurns_concat]
  apply evolves_carryOut (installation.offered turn)
  intro backup asked
  rw [home_afterTurns]
  exact apart turn List.mem_append_cons_self backup asked

theorem sound_storedAfter (sound : (installation.storedAfter disk []).Sound)
    (apart : installation.BackedUpApart disk turns) :
    (installation.storedAfter disk turns).Sound := by
  induction turns using List.reverseRecOn with
  | nil => exact sound
  | append_singleton earlier turn induction =>
      exact (evolves_turn apart).sound (induction apart.left)

theorem lasting_storedAfter {between : List Turn} {record : VersionRecord}
    (apart : installation.BackedUpApart disk (earlier ++ between))
    (recorded : (installation.storedAfter disk earlier).Records record) :
    ∃ left, (installation.storedAfter disk (earlier ++ between)).Records left ∧
      left.edition = record.edition := by
  induction between using List.reverseRecOn with
  | nil =>
      rw [List.append_nil]
      exact ⟨record, recorded, rfl⟩
  | append_singleton between turn induction =>
      rw [← List.append_assoc] at apart ⊢
      rcases induction apart.left with ⟨middle, recordedThen, sameEdition⟩
      rcases (evolves_turn apart).lasting recordedThen with ⟨left, recordedAfter, same⟩
      exact ⟨left, recordedAfter, same.trans sameEdition⟩

/-- Whatever is asked of an installation that has a sound record or none, it has one record with
one identity. -/
theorem one_record (sound : (disk.texts installation.path).Sound)
    (apart : installation.BackedUpApart disk turns) : installation.OneRecord disk turns := by
  constructor
  · rintro earlier later rfl
    exact sound_storedAfter sound apart.left
  · rintro earlier between later record rfl recorded
    exact lasting_storedAfter apart.left recorded
  · rintro earlier turn later record left rfl recorded recordedAfter renamed
    exact (evolves_turn apart).renamed recorded recordedAfter renamed
  · rintro earlier turn later text rfl asked succeeded
    have evolves := evolves_turn apart
    rw [asked, succeeded] at evolves
    exact evolves.identified_of_ok
  · rintro earlier turn later record left rfl recorded recordedAfter restamped
    exact (evolves_turn apart).restamped recorded recordedAfter restamped
  · rintro earlier turn later record rfl unrecorded recorded
    exact (evolves_turn apart).introduced unrecorded recorded

def atHome : Installation := ⟨"kvmigrate.sqlite3", ⟨1⟩, "01J0000000000000000000000B"⟩

/-- A migration is planned and carried out, the id is changed, and a backup is made. -/
def sampleTurns : List Turn :=
  [⟨.migrate "2.16.0" true, "01J0000000000000000000000C"⟩,
    ⟨.migrate "2.16.0" false, "01J0000000000000000000000D"⟩,
    ⟨.setInstanceId " 01J0000000000000000000000E\n", "01J0000000000000000000000F"⟩,
    ⟨.backup "backups/kvmigrate.sqlite3", "01J0000000000000000000000G"⟩]

theorem one_record_atHome :
    (homeDisk.texts atHome.path).Records behind ∧ (homeDisk.texts atHome.path).Sound ∧
      atHome.BackedUpApart homeDisk sampleTurns ∧
      (atHome.storedAfter homeDisk sampleTurns).Records
        ⟨"2.16.0", 0, ⟨1⟩, "01J0000000000000000000000E"⟩ ∧
      atHome.OneRecord homeDisk sampleTurns := by
  have recorded : (homeDisk.texts atHome.path).Records behind := ok_of_toOption (by decide +kernel)
  have sound : (homeDisk.texts atHome.path).Sound := .inr ⟨behind, .release 2 14 0, recorded, rfl⟩
  have apart : atHome.BackedUpApart homeDisk sampleTurns := by
    intro turn member backup asked
    simp only [sampleTurns, List.mem_cons, List.not_mem_nil, or_false] at member
    rcases member with rfl | rfl | rfl | rfl <;> cases asked
    decide +kernel
  have left : (atHome.storedAfter homeDisk sampleTurns).Records
      ⟨"2.16.0", 0, ⟨1⟩, "01J0000000000000000000000E"⟩ := ok_of_toOption (by decide +kernel)
  exact ⟨recorded, sound, apart, left, one_record sound apart⟩

/-- The path is that of the journal of another file. -/
def atJournal : Installation := { atHome with path := "kvmigrate.sqlite3-journal" }

def journalDisk : Disk :=
  ⟨["home"], [(["home"], .directory),
    (["home", "kvmigrate.sqlite3-journal"], .database (recordedAs behind.toJson))]⟩

def misplacedBackup : Turn := ⟨.backup "kvmigrate.sqlite3", "01J0000000000000000000000C"⟩

/-- The backup succeeds, and the database is gone. -/
theorem not_one_record_atJournal :
    (journalDisk.texts atJournal.path).Records behind ∧ (journalDisk.texts atJournal.path).Sound ∧
      Address.target? "kvmigrate.sqlite3" journalDisk.home ≠
        Address.target? atJournal.path journalDisk.home ∧
      atJournal.outcomeAfter journalDisk [] misplacedBackup = .ok () ∧
      atJournal.storedAfter journalDisk [misplacedBackup] bucket recordKey = none ∧
      ¬ atJournal.OneRecord journalDisk [misplacedBackup] := by
  have recorded : (journalDisk.texts atJournal.path).Records behind :=
    ok_of_toOption (by decide +kernel)
  have gone : atJournal.storedAfter journalDisk [misplacedBackup] bucket recordKey = none := by
    decide +kernel
  refine ⟨recorded, .inr ⟨behind, .release 2 14 0, recorded, rfl⟩, by decide +kernel,
    ok_of_toOption (by decide +kernel), gone, ?_⟩
  intro oneRecord
  rcases oneRecord.lasting [] [misplacedBackup] [] behind rfl recorded with ⟨left, recordedAfter, _⟩
  exact recordedAfter.present gone

end Installation

end StoreMigration
