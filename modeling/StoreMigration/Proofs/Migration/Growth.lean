import StoreMigration.Proofs.Migration.Rerun

/-! Registries that grow from release to release: descriptors get more steps at their end
and the registry more descriptors at its end. The count that is stamped by a run tells
how many steps of some descriptor are applied, which need not be the one at the stamped
version: whether steps appended there are run depends on which of the two has more. -/

namespace StoreMigration

theorem Descriptor.toNat_stepCount (descriptor : Descriptor) :
    descriptor.stepCount.toNat = min descriptor.steps.length (UInt32.size - 1) := by
  have fits : min descriptor.steps.length (UInt32.size - 1) < UInt32.size := by
    have positive : 0 < UInt32.size := by decide
    omega
  exact UInt32.toNat_ofNat_of_lt fits

theorem Descriptor.stepCount_pos {descriptor : Descriptor} (nonempty : descriptor.steps ≠ []) :
    0 < descriptor.stepCount := by
  have some := List.length_pos_iff.mpr nonempty
  rw [UInt32.lt_iff_toNat_lt, Descriptor.toNat_stepCount]
  show 0 < min descriptor.steps.length 4294967295
  omega

namespace Registry

/-! ## Growth -/

/-- The newer descriptors are the older ones with steps appended to them, and more
descriptors after them. -/
inductive Grown : List Descriptor → List Descriptor → Prop
  | appended {added : List Descriptor} : Grown [] added
  | extended {older newer : Descriptor} {olders newers : List Descriptor}
      (version : newer.version = older.version) (steps : older.steps <+: newer.steps)
      (others : Grown olders newers) : Grown (older :: olders) (newer :: newers)

def Distinct (registry : Registry) : Prop :=
  (registry.descriptors.map Descriptor.version).Nodup

instance (registry : Registry) : Decidable registry.Distinct :=
  inferInstanceAs (Decidable (registry.descriptors.map Descriptor.version).Nodup)

theorem exists_of_grown {olders newers : List Descriptor} (grown : Grown olders newers)
    {older : Descriptor} (member : older ∈ olders) :
    ∃ newer ∈ newers, newer.version = older.version ∧ older.stepCount ≤ newer.stepCount := by
  induction grown with
  | appended => cases member
  | @extended head newer rest newers version steps others induction =>
      rcases List.mem_cons.mp member with rfl | member
      · refine ⟨newer, List.mem_cons_self, version, ?_⟩
        have shorter := steps.length_le
        rw [UInt32.le_iff_toNat_le, Descriptor.toNat_stepCount, Descriptor.toNat_stepCount]
        omega
      · rcases induction member with ⟨other, inNewers, same, more⟩
        exact ⟨other, List.mem_cons_of_mem newer inNewers, same, more⟩

/-! ## Histories -/

/-- Runs of growing registries, the last one of `registry` for `version`, have led from a
record with a count of none to this store. -/
inductive Reached (storage : Storage σ α) : Registry → Version → σ → Prop
  | first {registry : Registry} {target : String} {version : Version} {record : VersionRecord}
      {report : Report} {state after : σ} (distinct : registry.Distinct)
      (readable : storage.record state = .ok record) (fresh : record.replayCount = 0)
      (valid : Version.read target = .ok version)
      (ran : (registry.run target).run storage.backend state = (.ok report, after)) :
      Reached storage registry version after
  | next {older registry : Registry} {target : String} {previous version : Version}
      {report : Report} {state after : σ} (reached : Reached storage older previous state)
      (grown : Grown older.descriptors registry.descriptors) (distinct : registry.Distinct)
      (valid : Version.read target = .ok version) (notBelow : ¬ version < previous)
      (ran : (registry.run target).run storage.backend state = (.ok report, after)) :
      Reached storage registry version after

def Backs (registry : Registry) (count : UInt32) : Prop :=
  count = 0 ∨ ∃ descriptor ∈ registry.descriptors, count ≤ descriptor.stepCount

theorem backs_grown {older newer : Registry} (grown : Grown older.descriptors newer.descriptors)
    {count : UInt32} (backs : older.Backs count) : newer.Backs count := by
  rcases backs with none | ⟨descriptor, member, counted⟩
  · exact .inl none
  · rcases exists_of_grown grown member with ⟨other, inNewer, _, more⟩
    exact .inr ⟨other, inNewer, UInt32.le_trans counted more⟩

theorem backs_make {registry : Registry} {record : VersionRecord}
    (backs : registry.Backs record.replayCount) (stored version : Version) :
    registry.Backs (Plan.make registry stored record version).replayCount := by
  have origin := Plan.count_origin stored record.replayCount registry.descriptors
  rcases origin with kept | none | ⟨descriptor, member, _, told⟩
  · have same : (Plan.make registry stored record version).replayCount = record.replayCount := kept
    rw [same]
    exact backs
  · exact .inl none
  · exact .inr ⟨descriptor, member, UInt32.le_of_eq told⟩

variable {storage : Storage σ α} {older newer : Registry} {version : Version} {state : σ}

/-- A run that succeeds stamps its target, and a count that is backed if the one before
was. -/
theorem record_of_run {registry : Registry} {target : String} {record : VersionRecord}
    {report : Report} {after : σ} (valid : Version.read target = .ok version)
    (readable : storage.record state = .ok record) (backs : registry.Backs record.replayCount)
    (ran : (registry.run target).run storage.backend state = (.ok report, after)) :
    ∃ stamped, storage.record after = .ok stamped ∧ stamped.parsedVersion = .ok version ∧
      registry.Backs stamped.replayCount := by
  rcases executes_of_ok ran with
    ⟨asked, stored, found, made, reached, read, fetched, parsed, executes⟩
  cases valid.symm.trans read
  cases readable.symm.trans fetched
  exact ⟨_, executes.record, parsedVersion_stamp registry stored record version,
    backs_make backs stored version⟩

theorem record_of_reached (reached : Reached storage older version state) :
    ∃ record, storage.record state = .ok record ∧ record.parsedVersion = .ok version ∧
      older.Backs record.replayCount := by
  induction reached with
  | first distinct readable fresh valid ran =>
      exact record_of_run valid readable (.inl fresh) ran
  | next reached grown distinct valid notBelow ran induction =>
      rcases induction with ⟨record, readable, _, backs⟩
      exact record_of_run valid readable (backs_grown grown backs) ran

/-! ## The descriptor at the stored version -/

/-- Where no descriptor is at the stored version, an upgrade loses the count and nothing
else changes it. -/
theorem count_of_absent {stored : Version} {applied : UInt32} {front : List Descriptor}
    (absent : ∀ descriptor ∈ front, descriptor.version ≠ stored) :
    (Plan.walk stored applied front).2 =
      if ∃ descriptor ∈ front, stored < descriptor.version then 0 else applied := by
  induction front generalizing applied with
  | nil => simp [Plan.walk]
  | cons descriptor rest induction =>
      have absentLater : ∀ other ∈ rest, other.version ≠ stored := fun other member =>
        absent other (List.mem_cons_of_mem descriptor member)
      rw [Plan.count_cons]
      by_cases below : stored < descriptor.version
      · have lost : (Plan.walk stored 0 rest).2 =
            if ∃ other ∈ rest, stored < other.version then 0 else 0 := induction absentLater
        -- Once the count is lost, no later descriptor brings it back.
        rw [ite_self] at lost
        rw [Descriptor.decide_of_below below, if_pos ⟨descriptor, List.mem_cons_self, below⟩]
        exact lost
      · have elsewhere : stored ≠ descriptor.version :=
          Ne.symm (absent descriptor List.mem_cons_self)
        have skipped : descriptor.decide stored applied = .skip :=
          Descriptor.decide_of_done below fun same => absurd same elsewhere
        rw [skipped]
        simp only [List.mem_cons, exists_eq_or_imp, below, false_or]
        exact induction absentLater

/-- Of the descriptors of a registry, a run executed `own` between some of the steps of
those in front and some of the steps of those behind. -/
def RunsOf (storage : Storage σ α) (state : σ) (report : Report) (front : List Descriptor)
    (own : List Step) (back : List Descriptor) : Prop :=
  ∃ earlier later made reached,
    earlier.Sublist (front.flatMap Descriptor.steps) ∧
    later.Sublist (back.flatMap Descriptor.steps) ∧
    Completes storage.backend (earlier ++ own ++ later) (ready storage.backend state) made reached ∧
    report.executedSteps = (earlier ++ own ++ later).map Step.name

/-- A descriptor at the stored version is run if its steps exceed the count or if the count
was lost before it. -/
theorem own_at_stored {applied : UInt32} {descriptor : Descriptor} (nonempty : descriptor.steps ≠ [])
    (lost : Prop) [Decidable lost] :
    (if descriptor.decide descriptor.version (if lost then 0 else applied) = .skip then []
      else descriptor.steps) =
    if applied < descriptor.stepCount ∨ lost then descriptor.steps else [] := by
  have runs : PlannedAction.replay ≠ .skip := by decide
  by_cases reset : lost
  · have missing : 0 < descriptor.stepCount := Descriptor.stepCount_pos nonempty
    have due : applied < descriptor.stepCount ∨ lost := .inr reset
    rw [if_pos reset, Descriptor.decide_of_missing rfl missing, if_neg runs, if_pos due]
  · rw [if_neg reset]
    by_cases missing : applied < descriptor.stepCount
    · have due : applied < descriptor.stepCount ∨ lost := .inl missing
      rw [Descriptor.decide_of_missing rfl missing, if_neg runs, if_pos due]
    · have idle : ¬ (applied < descriptor.stepCount ∨ lost) := by
        rintro (less | other)
        · exact missing less
        · exact reset other
      have done : descriptor.decide descriptor.version applied = .skip :=
        Descriptor.decide_of_done (Version.lt_irrefl _) fun _ => UInt32.not_lt.mp missing
      rw [done, if_pos rfl, if_neg idle]

theorem due_at_stored (applied : UInt32) {front : List Descriptor} (back : List Descriptor)
    {descriptor : Descriptor} (absent : ∀ other ∈ front, other.version ≠ descriptor.version)
    (nonempty : descriptor.steps ≠ []) :
    ∃ earlier later,
      earlier.Sublist (front.flatMap Descriptor.steps) ∧
      later.Sublist (back.flatMap Descriptor.steps) ∧
      Plan.due descriptor.version applied (front ++ descriptor :: back) =
        earlier ++ (if applied < descriptor.stepCount ∨
          ∃ other ∈ front, descriptor.version < other.version then descriptor.steps else []) ++
            later := by
  rw [Plan.due_append, Plan.due_cons, count_of_absent absent, own_at_stored nonempty,
    ← List.append_assoc]
  exact ⟨_, _, Plan.due_sublist _ _ front, Plan.due_sublist _ _ back, rfl⟩

theorem absent_of_distinct (distinct : newer.Distinct) {front back : List Descriptor}
    {descriptor : Descriptor} (place : newer.descriptors = front ++ descriptor :: back) :
    ∀ other ∈ front, other.version ≠ descriptor.version := by
  intro other member same
  rw [Distinct, place, List.map_append, List.map_cons] at distinct
  have apart := (List.nodup_append.mp distinct).2.2
  exact apart other.version (List.mem_map_of_mem member) descriptor.version List.mem_cons_self same

theorem lt_stepCount_of_backs {count : UInt32} {descriptor : Descriptor} (backs : older.Backs count)
    (nonempty : descriptor.steps ≠ []) (fits : descriptor.steps.length < UInt32.size)
    (longest : ∀ other ∈ older.descriptors, other.steps.length < descriptor.steps.length) :
    count < descriptor.stepCount := by
  rcases backs with rfl | ⟨other, member, counted⟩
  · exact Descriptor.stepCount_pos nonempty
  · have shorter := longest other member
    rw [UInt32.le_iff_toNat_le, Descriptor.toNat_stepCount] at counted
    rw [UInt32.lt_iff_toNat_lt, Descriptor.toNat_stepCount]
    omega

/-- After runs of growing registries, the next run passes over the descriptor at the stored
version exactly if its steps do not exceed the stored count and no descriptor in front of
it is above that version. It cannot if all others had fewer steps. -/
theorem runsOf_grown (reached : Reached storage older version state) (distinct : newer.Distinct)
    {front back : List Descriptor} {descriptor : Descriptor}
    (place : newer.descriptors = front ++ descriptor :: back) (here : descriptor.version = version)
    (nonempty : descriptor.steps ≠ [])
    (longer : ∀ previous ∈ older.descriptors, previous.version = version →
      previous.steps.length < descriptor.steps.length)
    {target : String} {report : Report} {after : σ}
    (ran : (newer.run target).run storage.backend state = (.ok report, after)) :
    ∃ record, storage.record state = .ok record ∧
      RunsOf storage state report front
        (if record.replayCount < descriptor.stepCount ∨
          ∃ other ∈ front, version < other.version then descriptor.steps else []) back ∧
      (descriptor.steps.length < UInt32.size →
        (∀ other ∈ older.descriptors, other.version ≠ version →
          other.steps.length < descriptor.steps.length) →
        record.replayCount < descriptor.stepCount) := by
  rcases record_of_reached reached with ⟨record, readable, stored, backs⟩
  rcases completes_due_of_ok readable stored ran with ⟨made, final, completes, told⟩
  refine ⟨record, readable, ?_, ?_⟩
  · subst here
    have split := due_at_stored record.replayCount back (absent_of_distinct distinct place) nonempty
    rcases split with ⟨earlier, later, inFront, inBack, due⟩
    rw [place, due] at completes told
    exact ⟨earlier, later, made, final, inFront, inBack, completes, told⟩
  · intro fits others
    apply lt_stepCount_of_backs backs nonempty fits
    intro other member
    by_cases there : other.version = version
    · exact longer other member there
    · exact others other member there

theorem reached_inert {releases : List (Version × List String)} {target : String}
    {record : VersionRecord} {stored : Version} (distinct : (inert releases).Distinct)
    (fresh : record.replayCount = 0) (valid : Version.read target = .ok version)
    (parsed : record.parsedVersion = .ok stored) :
    ∃ reached, Reached Memory.storage (inert releases) version reached ∧
      Memory.storage.record reached =
        .ok (stamp record (Plan.make (inert releases) stored record version)) := by
  have readable := Memory.record_versioned record
  rcases executes_of_succeeds Memory.servesBookkeeping (succeeds_inert releases _) valid readable
    parsed with ⟨_, _, reached, executes⟩
  exact ⟨reached, .first distinct readable fresh valid executes.run, executes.record⟩

/-- A descriptor with more steps than any before it. -/
theorem runsOf_grown_longest :
    let older := inert [(.release 1 0 0, ["add_role"])]
    let newer := inert [(.release 1 0 0, ["add_role"]), (.release 2 0 0, ["add_tags", "drop_teams"])]
    let front : List Descriptor := [⟨.release 1 0 0, [⟨"add_role", pure ()⟩]⟩]
    let descriptor : Descriptor :=
      ⟨.release 2 0 0, [⟨"add_tags", pure ()⟩, ⟨"drop_teams", pure ()⟩]⟩
    ∃ state report after,
      Reached Memory.storage older (.release 2 0 0) state ∧ newer.Distinct ∧
      newer.descriptors = front ++ descriptor :: [] ∧ descriptor.steps ≠ [] ∧
      (∀ previous ∈ older.descriptors, previous.version = .release 2 0 0 →
        previous.steps.length < descriptor.steps.length) ∧
      (newer.run "2.0.0").run Memory.backend state = (.ok report, after) ∧
      RunsOf Memory.storage state report front descriptor.steps [] := by
  intro older newer front descriptor
  let record : VersionRecord := ⟨"1.0.0", 0, ⟨1⟩, "01J0000000000000000000000A"⟩
  have succeeds : newer.Succeeds Memory.backend := succeeds_inert _ _
  have valid : Version.read "2.0.0" = .ok (.release 2 0 0) := rfl
  have parsed : Version.read "1.0.0" = .ok (.release 1 0 0) := rfl
  have distinctBefore : older.Distinct := by decide
  have fresh : record.replayCount = 0 := rfl
  rcases reached_inert distinctBefore fresh valid parsed with ⟨state, reached, readable⟩
  rcases executes_of_succeeds Memory.servesBookkeeping succeeds valid readable
      (parsedVersion_stamp older (.release 1 0 0) record (.release 2 0 0)) with ⟨_, _, after, ran⟩
  have distinct : newer.Distinct := by decide
  have nonempty : descriptor.steps ≠ [] := List.cons_ne_nil _ _
  have shorter : ∀ previous ∈ older.descriptors,
      previous.steps.length < descriptor.steps.length := by
    intro previous member
    cases List.mem_singleton.mp member
    decide
  have longer : ∀ previous ∈ older.descriptors, previous.version = .release 2 0 0 →
      previous.steps.length < descriptor.steps.length := fun previous member _ =>
    shorter previous member
  have place : newer.descriptors = front ++ descriptor :: [] := rfl
  rcases runsOf_grown reached distinct place rfl nonempty longer ran.run with
    ⟨record, _, runs, guarantee⟩
  have below := guarantee (by decide) fun other member _ => shorter other member
  rw [if_pos (.inl below)] at runs
  exact ⟨state, _, after, reached, distinct, place, nonempty, longer, ran.run, runs⟩

/-- The count of a descriptor with three steps hides one that is appended at the stored
version. -/
theorem grown_passedOver :
    let older := inert [(.release 1 0 0, ["add_role", "add_tags", "drop_teams"])]
    let newer := inert [(.release 1 0 0, ["add_role", "add_tags", "drop_teams"]),
      (.release 2 0 0, ["add_quota"])]
    ∃ state report after,
      Reached Memory.storage older (.release 2 0 0) state ∧
      Grown older.descriptors newer.descriptors ∧ newer.Distinct ∧
      (newer.run "2.0.0").run Memory.backend state = (.ok report, after) ∧
      report.executedSteps = [] := by
  intro older newer
  let record : VersionRecord := ⟨"1.0.0", 0, ⟨1⟩, "01J0000000000000000000000A"⟩
  have succeeds : newer.Succeeds Memory.backend := succeeds_inert _ _
  have valid : Version.read "2.0.0" = .ok (.release 2 0 0) := rfl
  have parsed : Version.read "1.0.0" = .ok (.release 1 0 0) := rfl
  have distinctBefore : older.Distinct := by decide
  have fresh : record.replayCount = 0 := rfl
  rcases reached_inert distinctBefore fresh valid parsed with ⟨state, reached, readable⟩
  rcases executes_of_succeeds Memory.servesBookkeeping succeeds valid readable
      (parsedVersion_stamp older (.release 1 0 0) record (.release 2 0 0)) with ⟨_, _, after, ran⟩
  refine ⟨state, _, after, reached, ?_, by decide, ran.run, by decide⟩
  exact .extended rfl List.prefix_rfl .appended

end Registry

end StoreMigration
