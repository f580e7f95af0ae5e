import StoreMigration.Proofs.Installation.Surveying
import StoreMigration.Proofs.Service.Started

/-! The codes of answers about the status. A target that is no version is the fault of the client,
and only where the store could be opened and prepared and its record was no trouble; all other
failures are the service's own: `Service.status_codes`. That the bucket of a store that opens cannot
be made sure of is one of these, whatever the target. -/

namespace StoreMigration

open Bookkeeping

namespace Service

/-! ## Requests for the status -/

def Inquiry.path (inquiry : Inquiry) : String := (splitAddress inquiry.address).1

def Inquiry.fields (inquiry : Inquiry) : List (String × String) :=
  decodeFields (splitAddress inquiry.address).2

/-- The request is for the status and names a target at most once. -/
structure Inquiry.AsksStatus (inquiry : Inquiry) : Prop where
  reads : inquiry.method = "GET" ∨ inquiry.method = "HEAD"
  path : inquiry.path = "/v1/db/status"
  once : (inquiry.fields.filter fun field => field.1 = "target").length ≤ 1

def wanted (service : Service) (inquiry : Inquiry) : String :=
  (inquiry.fields.lookup "target").getD service.target

theorem lookup_eq_head? (name : String) (fields : List (String × String)) :
    fields.lookup name = ((fields.filter fun field => field.1 = name).head?).map Prod.snd := by
  induction fields with
  | nil => rfl
  | cons field rest induction =>
      rcases field with ⟨key, value⟩
      by_cases same : key = name
      · simp [same]
      · have apart : (name == key) = false := beq_false_of_ne (Ne.symm same)
        simp [List.lookup_cons, apart, same, induction]

theorem singleField_of_once {name : String} {fields : List (String × String)}
    (once : (fields.filter fun field => field.1 = name).length ≤ 1) :
    singleField name fields = .ok (fields.lookup name) := by
  rw [singleField, lookup_eq_head?]
  generalize fields.filter (fun field => field.1 = name) = named at once
  match named with
  | [] => rfl
  | [_] => rfl
  | _ :: _ :: rest => exact absurd once (by simp)

variable {service : Service} {disk : Disk} {inquiry : Inquiry}

theorem status_answer (asks : inquiry.AsksStatus) :
    (service.answer disk inquiry).1.status = (answerStatus (service.installation.status
      (service.wanted inquiry) (disk.site service.installation.path)).1).status := by
  have path : (splitAddress inquiry.address).1 = "/v1/db/status" := asks.path
  have routed : Route.ofPath? (splitAddress inquiry.address).1 = some .databaseStatus := by
    rw [path]
    rfl
  have named : singleField "target" (decodeFields (splitAddress inquiry.address).2) =
      .ok (inquiry.fields.lookup "target") := singleField_of_once asks.once
  have told : (service.read (splitAddress inquiry.address).2 (disk.site service.installation.path)
      .databaseStatus).1 = answerStatus (service.installation.status (service.wanted inquiry)
        (disk.site service.installation.path)).1 := by
    simp only [read, respondStatus, named]
    rfl
  rw [← told]
  simp only [answer, Disk.visit, respond, routed]
  rcases asks.reads with get | head
  · rw [if_pos get]
  · rw [head, if_neg (by decide), if_pos rfl]

/-! ## Codes -/

theorem status_of_decides {target : String} {site : Site} {result : Except Failure StatusReport}
    (decides : service.installation.Decides target site result) :
    ((answerStatus result).status = 400 ↔ service.installation.Misnamed target site) ∧
      ((answerStatus result).status = 500 ↔ service.installation.Fails target site) ∧
      ((answerStatus result).status = 200 ↔ ¬ service.installation.Misnamed target site ∧
        ¬ service.installation.Fails target site) := by
  cases decides with
  | @misnamed failure misnamed blamed =>
      have code : (answerStatus (.error failure)).status = 400 := if_pos blamed
      rw [code]
      exact ⟨iff_of_true rfl misnamed, iff_of_false (by decide) misnamed.not_fails,
        iff_of_false (by decide) fun neither => neither.1 misnamed⟩
  | @fails failure fails blameless =>
      have code : (answerStatus (.error failure)).status = 500 :=
        if_neg (Bool.eq_false_iff.mp blameless)
      rw [code]
      exact ⟨iff_of_false (by decide) fun misnamed => misnamed.not_fails fails,
        iff_of_true rfl fails, iff_of_false (by decide) fun neither => neither.2 fails⟩
  | @told report named works =>
      have code : (answerStatus (.ok report)).status = 200 := rfl
      rw [code]
      exact ⟨iff_of_false (by decide) named, iff_of_false (by decide) works,
        iff_of_true rfl ⟨named, works⟩⟩

/-- The answer to a request for the status is that the request was wrong exactly where its target is
no version and nothing else came first, and that the service failed exactly where the store did. -/
theorem status_codes (asks : inquiry.AsksStatus) :
    let site := (disk.site service.installation.path).consulted
    let target := service.wanted inquiry
    let code := (service.answer disk inquiry).1.status
    (code = 400 ↔ service.installation.Misnamed target site) ∧
      (code = 500 ↔ service.installation.Fails target site) ∧
      (code = 200 ↔ ¬ service.installation.Misnamed target site ∧
        ¬ service.installation.Fails target site) := by
  intro site target code
  have answered : code = _ := status_answer asks
  rw [answered]
  exact status_of_decides (service.installation.decides target _)

def misnaming : Inquiry := ⟨"GET", "/v1/db/status?target=latest"⟩

theorem asksStatus_misnaming : misnaming.AsksStatus :=
  ⟨.inl rfl, by decide +kernel, by decide +kernel⟩

theorem status_codes_misnaming :
    misnaming.AsksStatus ∧ (atHome.answer Installation.homeDisk misnaming).1.status = 400 ∧
      atHome.installation.Misnamed (atHome.wanted misnaming)
        (Installation.homeDisk.site atHome.installation.path).consulted := by
  have code : (atHome.answer Installation.homeDisk misnaming).1.status = 400 := by decide +kernel
  exact ⟨asksStatus_misnaming, code, (status_codes asksStatus_misnaming).1.mp code⟩

/-- A directory lies where the index of the log would be, so that the database opens but is only to
be read. -/
def indexDisk : Disk :=
  ⟨["home"], [(["home"], .directory),
    (["home", "kvmigrate.sqlite3"], .database (Installation.recordedAs Installation.behind.toJson)),
    (["home", "kvmigrate.sqlite3-shm"], .directory)]⟩

/-- The store opens, its record decodes and the target is no version, and yet the answer is that the
service failed: the bucket could not be made sure of. -/
theorem unprepared_atIndex :
    misnaming.AsksStatus ∧
      (∃ opened record, atHome.installation.openSite
          (indexDisk.site atHome.installation.path).consulted = .ok opened ∧
        opened.texts.Records record) ∧
      (∀ version, Version.read (atHome.wanted misnaming) ≠ .ok version) ∧
      (atHome.answer indexDisk misnaming).1.status = 500 := by
  have opens : (atHome.installation.openSite
      (indexDisk.site atHome.installation.path).consulted).toOption =
        some (Installation.recordedAs Installation.behind.toJson) := by decide +kernel
  have recorded : (Installation.recordedAs Installation.behind.toJson).texts.Records
      Installation.behind := Installation.ok_of_toOption (by decide +kernel)
  have invalid : (Version.read (atHome.wanted misnaming)).toOption = none := by decide +kernel
  refine ⟨asksStatus_misnaming, ⟨_, _, Installation.ok_of_toOption opens, recorded⟩, ?_,
    by decide +kernel⟩
  intro version valid
  rw [valid] at invalid
  cases invalid

end Service

end StoreMigration
