import StoreMigration.Proofs.Migration.Growth

/-! Plans told place by place. What a plan decides about a descriptor can be read off the
stored version, the descriptor and the step counts met since the last upgrade in front of it,
with no count handed on (`Plan.ofRecord_placewise`). Of two stored versions the newer one
leaves less to do, whatever the counts (`Plan.less_to_do`). -/

namespace StoreMigration

theorem Version.lt_trans {first second third : Version} (below : first < second)
    (above : second < third) : first < third :=
  Std.TransCmp.lt_trans below above

namespace Descriptor

variable {descriptor : Descriptor} {stored older newer : Version} {applied other : UInt32}

theorem decide_eq_upgrade_iff :
    descriptor.decide stored applied = .upgrade ↔ stored < descriptor.version := by
  by_cases below : stored < descriptor.version
  · simp [decide_of_below below, below]
  · simp only [decide, below, if_false, iff_false]
    split <;> simp

theorem decide_eq_replay_iff :
    descriptor.decide stored applied = .replay ↔
      stored = descriptor.version ∧ applied < descriptor.stepCount :=
  ⟨of_decide_replay, fun missing => decide_of_missing missing.1 missing.2⟩

theorem decide_eq_skip_iff :
    descriptor.decide stored applied = .skip ↔
      ¬ stored < descriptor.version ∧
        ¬ (stored = descriptor.version ∧ applied < descriptor.stepCount) := by
  rw [← @decide_eq_upgrade_iff descriptor stored applied, ← decide_eq_replay_iff]
  cases descriptor.decide stored applied with
  | upgrade => simp
  | replay => simp
  | skip => simp

theorem stepCount_toNat_of_fits (fits : descriptor.steps.length < UInt32.size) :
    descriptor.stepCount.toNat = descriptor.steps.length := by
  rw [toNat_stepCount]
  omega

/-- Without an upgrade the steps of a descriptor at the stored version are all known to be
applied afterwards. -/
theorem toNat_countAfter (fits : descriptor.steps.length < UInt32.size)
    (notBelow : ¬ stored < descriptor.version) :
    (descriptor.countAfter applied (descriptor.decide stored applied)).toNat =
      if descriptor.version = stored then max applied.toNat descriptor.steps.length
      else applied.toNat := by
  have length := stepCount_toNat_of_fits fits
  by_cases missing : stored = descriptor.version ∧ applied < descriptor.stepCount
  · have more := UInt32.lt_iff_toNat_lt.mp missing.2
    rw [decide_of_missing missing.1 missing.2, if_pos missing.1.symm, countAfter]
    omega
  · rw [decide_eq_skip_iff.mpr ⟨notBelow, missing⟩, countAfter]
    split
    · next same =>
        have done : ¬ applied < descriptor.stepCount := fun less => missing ⟨same.symm, less⟩
        rw [UInt32.lt_iff_toNat_lt] at done
        omega
    · rfl

/-- What is left to do at a version has to be done for every version below it. -/
theorem decide_of_newer (below : older < newer)
    (pending : descriptor.decide newer applied ≠ .skip) :
    descriptor.decide older other = .upgrade := by
  rw [decide_eq_upgrade_iff]
  cases decision : descriptor.decide newer applied with
  | upgrade => exact Version.lt_trans below (decide_eq_upgrade_iff.mp decision)
  | replay =>
      rw [← (decide_eq_replay_iff.mp decision).1]
      exact below
  | skip => exact absurd decision pending

end Descriptor

namespace Plan

theorem eq_make_of_ofRecord {stored : Version} {record : VersionRecord} {registry : Registry}
    {target : Version} {plan : Plan} (parsed : record.parsedVersion = .ok stored)
    (planned : ofRecord registry record target = .ok plan) :
    plan = make registry stored record target := by
  rw [ofRecord_of_parsed registry target parsed] at planned
  exact (Except.ok.inj planned).symm

/-! ## Walking to a place -/

section Walking

variable {stored : Version} {applied : UInt32} {descriptors : List Descriptor} {place : Nat}
  {descriptor : Descriptor}

theorem count_append (front back : List Descriptor) :
    (walk stored applied (front ++ back)).2 =
      (walk stored (walk stored applied front).2 back).2 := by
  induction front generalizing applied with
  | nil => rfl
  | cons head rest induction =>
      rw [List.cons_append, count_cons, count_cons, induction]

theorem getElem?_walk :
    (walk stored applied descriptors).1[place]? = descriptors[place]?.map fun descriptor =>
      descriptor.decide stored (walk stored applied (descriptors.take place)).2 := by
  induction descriptors generalizing applied place with
  | nil => rfl
  | cons head rest induction =>
      cases place with
      | zero => rfl
      | succ place =>
          rw [List.take_succ_cons, count_cons, List.getElem?_cons_succ]
          exact induction

theorem count_take_succ (here : descriptors[place]? = some descriptor) :
    (walk stored applied (descriptors.take (place + 1))).2 =
      descriptor.countAfter (walk stored applied (descriptors.take place)).2
        (descriptor.decide stored (walk stored applied (descriptors.take place)).2) := by
  rw [List.take_add_one, here, count_append]
  rfl

end Walking

/-! ## Place by place -/

section Places

variable (plan : Plan)

def actionAt (place : Nat) : Option PlannedAction :=
  plan.descriptors[place]?.map PlannedDescriptor.action

/-- The last place in front of this one that is upgraded to. -/
def lastUpgrade (place : Nat) : Option Nat :=
  ((List.range place).filter fun earlier => plan.actionAt earlier = some .upgrade).getLast?

/-- The descriptors in front of a place that come after the last upgrade. -/
def sinceUpgrade (descriptors : List Descriptor) (place : Nat) : List Descriptor :=
  match plan.lastUpgrade place with
  | none => descriptors.take place
  | some last => (descriptors.take place).drop (last + 1)

/-- How many steps are known to be applied in a place: the most that a descriptor at the
stored version has had since the last upgrade, and no fewer than the record says if there was
none. -/
def countAt (registry : Registry) (stored : Version) (applied : UInt32) (place : Nat) : Nat :=
  let base := if (plan.lastUpgrade place).isSome then 0 else applied.toNat
  let met := (plan.sinceUpgrade registry.descriptors place).filter fun descriptor =>
    descriptor.version = stored
  (met.map fun descriptor => descriptor.steps.length).foldl max base

/-- Each descriptor is decided by itself and by the count in its place, and the count behind
the last one is kept. -/
structure Placewise (registry : Registry) (stored : Version) (applied : UInt32) : Prop where
  length_eq : plan.descriptors.length = registry.descriptors.length
  decided {place : Nat} {descriptor : Descriptor}
    (here : registry.descriptors[place]? = some descriptor) :
    ∃ action, plan.descriptors[place]? = some (plannedDescriptor descriptor action) ∧
      (action = .upgrade ↔ stored < descriptor.version) ∧
      (action = .replay ↔ stored = descriptor.version ∧
        plan.countAt registry stored applied place < descriptor.steps.length) ∧
      (action = .skip ↔ ¬ stored < descriptor.version ∧
        ¬ (stored = descriptor.version ∧
          plan.countAt registry stored applied place < descriptor.steps.length))
  replayCount_eq :
    plan.replayCount.toNat = plan.countAt registry stored applied registry.descriptors.length

end Places

section Made

variable {plan : Plan} {registry : Registry} {stored : Version} {record : VersionRecord}
  {target : Version} {place : Nat} {descriptor : Descriptor}

theorem lastUpgrade_succ :
    plan.lastUpgrade (place + 1) =
      if plan.actionAt place = some .upgrade then some place else plan.lastUpgrade place := by
  by_cases upgraded : plan.actionAt place = some .upgrade
  · simp [lastUpgrade, List.range_succ, upgraded]
  · simp [lastUpgrade, List.range_succ, upgraded]

theorem lt_of_lastUpgrade {last : Nat} (found : plan.lastUpgrade place = some last) :
    last < place := by
  have member := List.mem_of_getLast? found
  simp only [List.mem_filter, List.mem_range] at member
  exact member.1

theorem countAt_succ_of_upgrade {applied : UInt32}
    (upgraded : plan.actionAt place = some .upgrade) :
    plan.countAt registry stored applied (place + 1) = 0 := by
  have last : plan.lastUpgrade (place + 1) = some place := by
    rw [lastUpgrade_succ, if_pos upgraded]
  have none : (registry.descriptors.take (place + 1)).drop (place + 1) = [] := by
    rw [List.drop_eq_nil_iff]
    exact List.length_take_le _ _
  simp [countAt, sinceUpgrade, last, none]

theorem countAt_succ_of_kept {applied : UInt32}
    (here : registry.descriptors[place]? = some descriptor)
    (kept : plan.actionAt place ≠ some .upgrade) :
    plan.countAt registry stored applied (place + 1) =
      if descriptor.version = stored then
        max (plan.countAt registry stored applied place) descriptor.steps.length
      else plan.countAt registry stored applied place := by
  have last : plan.lastUpgrade (place + 1) = plan.lastUpgrade place := by
    rw [lastUpgrade_succ, if_neg kept]
  have since : plan.sinceUpgrade registry.descriptors (place + 1) =
      plan.sinceUpgrade registry.descriptors place ++ [descriptor] := by
    have inside := (List.getElem?_eq_some_iff.mp here).1
    cases found : plan.lastUpgrade place with
    | none => simp [sinceUpgrade, last, found, List.take_add_one, here]
    | some upgrade =>
        have before := lt_of_lastUpgrade found
        have short : upgrade + 1 ≤ (registry.descriptors.take place).length := by
          rw [List.length_take]
          omega
        simp [sinceUpgrade, last, found, List.take_add_one, here,
          List.drop_append_of_le_length short]
  by_cases same : descriptor.version = stored
  · simp [countAt, last, since, same]
  · simp [countAt, last, since, same]

variable (registry) (stored) (record) (target)

theorem getElem?_descriptors_make (here : registry.descriptors[place]? = some descriptor) :
    (make registry stored record target).descriptors[place]? =
      some (plannedDescriptor descriptor (descriptor.decide stored
        (walk stored record.replayCount (registry.descriptors.take place)).2)) := by
  simp [make, List.getElem?_zipWith, getElem?_walk, here]

theorem actionAt_make (here : registry.descriptors[place]? = some descriptor) :
    (make registry stored record target).actionAt place =
      some (descriptor.decide stored
        (walk stored record.replayCount (registry.descriptors.take place)).2) := by
  rw [actionAt, getElem?_descriptors_make registry stored record target here]
  rfl

/-- The count in a place is the one that a walk over the descriptors in front of it leaves. -/
theorem countAt_make
    (fits : ∀ descriptor ∈ registry.descriptors, descriptor.steps.length < UInt32.size)
    (within : place ≤ registry.descriptors.length) :
    (make registry stored record target).countAt registry stored record.replayCount place =
      (walk stored record.replayCount (registry.descriptors.take place)).2.toNat := by
  induction place with
  | zero => simp [countAt, lastUpgrade, sinceUpgrade, walk]
  | succ place induction =>
      have counted := induction (by omega)
      have here := List.getElem?_eq_getElem within
      generalize registry.descriptors[place] = descriptor at here
      have small := fits descriptor (List.mem_of_getElem? here)
      have action := actionAt_make registry stored record target here
      rw [count_take_succ here]
      -- A descriptor above the stored version resets the count; any other adds what it replays.
      by_cases below : stored < descriptor.version
      · rw [Descriptor.decide_of_below below] at action ⊢
        exact countAt_succ_of_upgrade action
      · have kept : (make registry stored record target).actionAt place ≠ some .upgrade := by
          simp [action, Descriptor.decide_eq_upgrade_iff, below]
        rw [countAt_succ_of_kept here kept, counted, Descriptor.toNat_countAfter small below]

theorem placewise_make
    (fits : ∀ descriptor ∈ registry.descriptors, descriptor.steps.length < UInt32.size) :
    (make registry stored record target).Placewise registry stored record.replayCount where
  length_eq := by simp [make]
  decided {place descriptor} here := by
    have inside := (List.getElem?_eq_some_iff.mp here).1
    have counted := countAt_make registry stored record target fits (Nat.le_of_lt inside)
    have length := Descriptor.stepCount_toNat_of_fits (fits descriptor (List.mem_of_getElem? here))
    refine ⟨_, getElem?_descriptors_make registry stored record target here,
      Descriptor.decide_eq_upgrade_iff, ?_, ?_⟩
    · rw [Descriptor.decide_eq_replay_iff, UInt32.lt_iff_toNat_lt, counted, length]
    · rw [Descriptor.decide_eq_skip_iff, UInt32.lt_iff_toNat_lt, counted, length]
  replayCount_eq := by
    rw [countAt_make registry stored record target fits (Nat.le_refl _), List.take_length]
    rfl

/-- Every record whose version can be read has a plan, and it is told place by place. -/
theorem ofRecord_placewise
    (fits : ∀ descriptor ∈ registry.descriptors, descriptor.steps.length < UInt32.size)
    (parsed : record.parsedVersion = .ok stored) :
    ∃ plan, ofRecord registry record target = .ok plan ∧
      plan.Placewise registry stored record.replayCount :=
  ⟨_, ofRecord_of_parsed registry target parsed,
    placewise_make registry stored record target fits⟩

/-- Upgrades and replays in turn, from a count that is higher than any descriptor has steps. -/
theorem ofRecord_placewise_inTurn :
    let registry := Registry.inert [(.release 2 0 0, ["add_role"]),
      (.release 1 0 0, ["add_tags", "drop_teams"]), (.release 1 0 0, ["tidy"]),
      (.release 3 0 0, []), (.release 1 0 0, ["add_quota"]), (.release 0 9 0, ["add_group"])]
    let record : VersionRecord := ⟨"1.0.0", 7, ⟨1⟩, "01J0000000000000000000000A"⟩
    (∀ descriptor ∈ registry.descriptors, descriptor.steps.length < UInt32.size) ∧
      record.parsedVersion = .ok (.release 1 0 0) ∧
      ∃ plan, ofRecord registry record (.release 3 0 0) = .ok plan ∧
        plan.Placewise registry (.release 1 0 0) 7 ∧
        plan.descriptors.map PlannedDescriptor.action =
          [.upgrade, .replay, .skip, .upgrade, .replay, .skip] ∧
        plan.replayCount = 1 := by
  intro registry record
  have fits : ∀ descriptor ∈ registry.descriptors, descriptor.steps.length < UInt32.size := by
    decide
  have read : Version.read "1.0.0" = .ok (.release 1 0 0) := rfl
  have parsed : record.parsedVersion = .ok (.release 1 0 0) := read
  obtain ⟨plan, planned, placewise⟩ :=
    ofRecord_placewise registry (.release 1 0 0) record (.release 3 0 0) fits parsed
  obtain rfl := eq_make_of_ofRecord parsed planned
  exact ⟨fits, parsed, _, planned, placewise, by decide, by decide⟩

end Made

/-! ## Two stored versions -/

section Newer

variable {first second : Version}

theorem due_sublist_of_newer (below : first < second) (descriptors : List Descriptor)
    (applied other : UInt32) :
    (due second applied descriptors).Sublist (due first other descriptors) := by
  induction descriptors generalizing applied other with
  | nil => exact List.Sublist.refl []
  | cons descriptor rest induction =>
      rw [due_cons, due_cons]
      apply List.Sublist.append _ (induction _ _)
      split
      · exact List.nil_sublist _
      · next pending =>
          simp [Descriptor.decide_of_newer below pending]

/-- What the plan for the newer of two stored versions does not skip is an upgrade in the plan
for the older one, which therefore has all its pending steps. -/
theorem less_to_do (registry : Registry) (target : Version) (older newer : VersionRecord)
    (parsedOlder : older.parsedVersion = .ok first)
    (parsedNewer : newer.parsedVersion = .ok second) (below : first < second) :
    ∃ long short, ofRecord registry older target = .ok long ∧
      ofRecord registry newer target = .ok short ∧
      (∀ (place : Nat) (planned : PlannedDescriptor), short.descriptors[place]? = some planned →
        planned.action ≠ .skip →
          long.descriptors[place]? = some { planned with action := .upgrade }) ∧
      short.pendingSteps.Sublist long.pendingSteps := by
  refine ⟨_, _, ofRecord_of_parsed registry target parsedOlder,
    ofRecord_of_parsed registry target parsedNewer, ?_, ?_⟩
  · intro place planned here pending
    cases found : registry.descriptors[place]? with
    | none => simp [make, List.getElem?_zipWith, found] at here
    | some descriptor =>
        rw [getElem?_descriptors_make registry second newer target found,
          Option.some.injEq] at here
        subst here
        rw [getElem?_descriptors_make registry first older target found]
        exact congrArg some (congrArg (plannedDescriptor descriptor)
          (Descriptor.decide_of_newer below pending))
  · rw [← names_pending, ← names_pending, pending_make, pending_make]
    exact (due_sublist_of_newer below _ _ _).map Step.name

/-- A store at a pre-release with a high count, and one at the release with none. -/
theorem less_to_do_afterRelease :
    let registry := Registry.inert [(.release 1 0 0, ["add_tags", "drop_teams"]),
      (.release 2 0 0, ["add_role"]), (.release 0 9 0, ["tidy"])]
    let candidate : Version :=
      ⟨1, 0, 0, [.word ⟨['r', 'c'], by decide⟩ (by decide), .number 1], []⟩
    let older : VersionRecord := ⟨candidate.text, 9, ⟨1⟩, "01J0000000000000000000000A"⟩
    let newer : VersionRecord := ⟨"1.0.0", 2, ⟨1⟩, "01J0000000000000000000000B"⟩
    older.parsedVersion = .ok candidate ∧ newer.parsedVersion = .ok (.release 1 0 0) ∧
      candidate < .release 1 0 0 ∧
      ∃ long short, ofRecord registry older (.release 2 0 0) = .ok long ∧
        ofRecord registry newer (.release 2 0 0) = .ok short ∧
        short.pendingSteps = ["add_role"] ∧
        long.pendingSteps = ["add_tags", "drop_teams", "add_role"] ∧
        short.pendingSteps.Sublist long.pendingSteps := by
  intro registry candidate older newer
  have parsedOlder : older.parsedVersion = .ok candidate := Version.read_text candidate
  have read : Version.read "1.0.0" = .ok (.release 1 0 0) := rfl
  have parsedNewer : newer.parsedVersion = .ok (.release 1 0 0) := read
  have below : candidate < .release 1 0 0 := by decide
  obtain ⟨long, short, planned, replanned, _, fewer⟩ :=
    less_to_do registry (.release 2 0 0) older newer parsedOlder parsedNewer below
  obtain rfl := eq_make_of_ofRecord parsedOlder planned
  obtain rfl := eq_make_of_ofRecord parsedNewer replanned
  exact ⟨parsedOlder, parsedNewer, below, _, _, planned, replanned, by decide, by decide, fewer⟩

end Newer

end Plan

end StoreMigration
