import StoreMigration.Proofs.Version.RoundTrip

/-! The grammar of version texts, and that the two readers accept exactly it. A strict text
is three numbers with dots between them, then an optional pre-release and optional build
metadata. A lenient one has white space around it, one `v` in front and one or two numbers
in place of three, all of it optional (`Version.read_iff_lenient`). -/

namespace StoreMigration

open Text

namespace Version

/-! ## The grammar -/

structure IsNumeral (digits : List Char) (value : Nat) : Prop where
  nonempty : digits ≠ []
  allDigits : ∀ digit ∈ digits, Decimal.isDigit digit = true
  noZero : digits.head? = some '0' → digits.length = 1
  stands : Decimal.ofDigits digits = value

/-- The numbers of a version, each of 64 bits, with a dot between each two. The numbers
that are not written are zero. -/
inductive IsCore : (dots : Nat) → List Char → (major minor patch : UInt64) → Prop where
  | one {first : List Char} {a : UInt64} (major : IsNumeral first a.toNat) :
      IsCore 0 first a 0 0
  | two {first second : List Char} {a b : UInt64} (major : IsNumeral first a.toNat)
      (minor : IsNumeral second b.toNat) :
      IsCore 1 (first ++ '.' :: second) a b 0
  | three {first second third : List Char} {a b c : UInt64}
      (major : IsNumeral first a.toNat) (minor : IsNumeral second b.toNat)
      (patch : IsNumeral third c.toNat) :
      IsCore 2 (first ++ '.' :: (second ++ '.' :: third)) a b c

def IsLabel (segment : List Char) (label : Label) : Prop :=
  segment = label.characters

inductive IsIdentifier : List Char → Identifier → Prop where
  | number {digits : List Char} {value : Nat} (numeral : IsNumeral digits value) :
      IsIdentifier digits (.number value)
  | word (label : Label) (named : label.isNumeric = false) :
      IsIdentifier label.characters (.word label named)

inductive AreSegments (writes : List Char → α → Prop) : List Char → List α → Prop where
  | last {segment : List Char} {value : α} (here : writes segment value) :
      AreSegments writes segment [value]
  | more {segment rest : List Char} {value : α} {values : List α}
      (here : writes segment value) (later : AreSegments writes rest values) :
      AreSegments writes (segment ++ '.' :: rest) (value :: values)

inductive IsSuffix (sign : Char) (writes : List Char → α → Prop) :
    List Char → List α → Prop where
  | absent : IsSuffix sign writes [] []
  | present {rest : List Char} {values : List α} (segments : AreSegments writes rest values) :
      IsSuffix sign writes (sign :: rest) values

/-- A version with so many dots between its numbers. -/
inductive IsPlain (dots : Nat) : List Char → Version → Prop where
  | intro {core preText buildText : List Char} {version : Version}
      (numbers : IsCore dots core version.major version.minor version.patch)
      (preRelease : IsSuffix '-' IsIdentifier preText version.preRelease)
      (build : IsSuffix '+' IsLabel buildText version.build) :
      IsPlain dots (core ++ (preText ++ buildText)) version

def IsStrict (text : List Char) (version : Version) : Prop :=
  IsPlain 2 text version

/-- White space around a version of one to three numbers, which one `v` or `V` may stand in
front of. -/
inductive IsLenient : List Char → Version → Prop where
  | intro {front mark body back : List Char} {dots : Nat} {version : Version}
      (blankFront : ∀ character ∈ front, isBlank character = true)
      (marked : mark ∈ [[], ['v'], ['V']])
      (plain : IsPlain dots body version)
      (blankBack : ∀ character ∈ back, isBlank character = true) :
      IsLenient (front ++ (mark ++ body ++ back)) version

/-! ## The grammar and the canonical texts -/

theorem isNumeral_iff {digits : List Char} {value : Nat} :
    IsNumeral digits value ↔ digits = Decimal.toDigits value := by
  constructor
  · intro numeral
    rw [← numeral.stands,
      Decimal.toDigits_ofDigits numeral.nonempty numeral.allDigits numeral.noZero]
  · rintro rfl
    exact ⟨Decimal.toDigits_ne_nil value, fun _ => Decimal.isDigit_of_mem_toDigits,
      Decimal.length_toDigits_of_head, Decimal.ofDigits_toDigits value⟩

theorem isIdentifier_iff {segment : List Char} {identifier : Identifier} :
    IsIdentifier segment identifier ↔ segment = identifier.characters := by
  constructor
  · intro writes
    cases writes with
    | number numeral => exact isNumeral_iff.mp numeral
    | word label named => rfl
  · rintro rfl
    cases identifier with
    | number value => exact .number (isNumeral_iff.mpr rfl)
    | word label named => exact .word label named

section Segments

variable {writes : List Char → α → Prop} {print : α → List Char}

theorem areSegments_iff
    (canonical : ∀ segment value, writes segment value ↔ segment = print value)
    {text : List Char} {values : List α} :
    AreSegments writes text values ↔ values ≠ [] ∧ text = dotted (values.map print) := by
  constructor
  · intro segments
    induction segments with
    | last here => simp [dotted, (canonical _ _).mp here]
    | @more segment rest value values here later induction =>
        obtain ⟨nonempty, same⟩ := induction
        cases values with
        | nil => exact absurd rfl nonempty
        | cons next others =>
            rw [same, (canonical _ _).mp here]
            exact ⟨List.cons_ne_nil value _, rfl⟩
  · rintro ⟨nonempty, rfl⟩
    induction values with
    | nil => exact absurd rfl nonempty
    | cons value rest induction =>
        have here : writes (print value) value := (canonical _ _).mpr rfl
        cases rest with
        | nil => exact .last here
        | cons next others => exact .more here (induction (List.cons_ne_nil next others))

theorem isSuffix_iff
    (canonical : ∀ segment value, writes segment value ↔ segment = print value)
    {sign : Char} {text : List Char} {values : List α} :
    IsSuffix sign writes text values ↔
      text = if values.isEmpty then [] else sign :: dotted (values.map print) := by
  constructor
  · intro suffix
    cases suffix with
    | absent => rfl
    | present segments =>
        obtain ⟨nonempty, same⟩ := (areSegments_iff canonical).mp segments
        rw [same, if_neg (by simpa using nonempty)]
  · rintro rfl
    cases values with
    | nil => exact .absent
    | cons value others =>
        exact .present ((areSegments_iff canonical).mpr ⟨List.cons_ne_nil value others, rfl⟩)

end Segments

theorem isPreRelease_iff {text : List Char} {preRelease : List Identifier} :
    IsSuffix '-' IsIdentifier text preRelease ↔ text = preReleaseText preRelease := by
  have canonical : ∀ segment identifier,
      IsIdentifier segment identifier ↔ segment = identifier.characters :=
    fun _ _ => isIdentifier_iff
  exact isSuffix_iff canonical

theorem isBuild_iff {text : List Char} {build : List Label} :
    IsSuffix '+' IsLabel text build ↔ text = buildText build :=
  isSuffix_iff fun _ _ => Iff.rfl

theorem isPlain_iff {dots : Nat} {text : List Char} {version : Version} :
    IsPlain dots text version ↔
      ∃ core, IsCore dots core version.major version.minor version.patch ∧
        text = core ++ (preReleaseText version.preRelease ++ buildText version.build) := by
  constructor
  · rintro ⟨numbers, preRelease, build⟩
    rw [isPreRelease_iff.mp preRelease, isBuild_iff.mp build]
    exact ⟨_, numbers, rfl⟩
  · rintro ⟨core, numbers, rfl⟩
    exact ⟨numbers, isPreRelease_iff.mpr rfl, isBuild_iff.mpr rfl⟩

theorem isCore_two_iff {core : List Char} {version : Version} :
    IsCore 2 core version.major version.minor version.patch ↔ core = version.coreCharacters := by
  constructor
  · intro numbers
    cases numbers with
    | three a b c =>
        rw [isNumeral_iff.mp a, isNumeral_iff.mp b, isNumeral_iff.mp c]
        rfl
  · rintro rfl
    exact .three (isNumeral_iff.mpr rfl) (isNumeral_iff.mpr rfl) (isNumeral_iff.mpr rfl)

theorem isStrict_iff {text : List Char} {version : Version} :
    IsStrict text version ↔ text = version.characters := by
  rw [IsStrict, isPlain_iff, characters_eq]
  constructor
  · rintro ⟨core, numbers, rfl⟩
    rw [isCore_two_iff.mp numbers]
  · rintro rfl
    exact ⟨version.coreCharacters, isCore_two_iff.mpr rfl, rfl⟩

/-! ## What the strict reader accepts

Whatever a part of the reader takes off a text is the canonical text of what it gives. -/

theorem length_of_noZero {digits : List Char}
    (noZero : ¬ (digits.head? = some '0' ∧ digits.length > 1)) (zero : digits.head? = some '0') :
    digits.length = 1 := by
  have short : ¬ digits.length > 1 := fun long => noZero ⟨zero, long⟩
  cases digits with
  | nil => cases zero
  | cons first rest =>
      simp only [List.length_cons] at short ⊢
      omega

theorem eq_of_readNumber {part : VersionPart} {text rest : List Char} {number : UInt64}
    (accepted : readNumber part text = .ok (number, rest)) :
    text = Decimal.toDigits number.toNat ++ rest := by
  have allDigits : ∀ digit ∈ text.takeWhile Decimal.isDigit, Decimal.isDigit digit = true :=
    List.all_eq_true.mp List.all_takeWhile
  simp only [readNumber] at accepted
  split at accepted
  · split at accepted <;> cases accepted
  next nonempty =>
  split at accepted
  · cases accepted
  next noZero =>
  split at accepted
  · next fits =>
      cases accepted
      have numeral : IsNumeral (text.takeWhile Decimal.isDigit)
          (Decimal.ofDigits (text.takeWhile Decimal.isDigit)) :=
        ⟨by simpa using nonempty, allDigits, length_of_noZero noZero, rfl⟩
      rw [UInt64.toNat_ofNat_of_lt' fits, ← isNumeral_iff.mp numeral,
        List.takeWhile_append_dropWhile]
  · cases accepted

theorem eq_of_readDot {part : VersionPart} {text rest : List Char}
    (accepted : readDot part text = .ok rest) : text = '.' :: rest := by
  unfold readDot at accepted
  split at accepted <;> simp_all

theorem eq_of_readLabel {part : VersionPart} {segment : List Char} {label : Label}
    (accepted : readLabel part segment = .ok label) : segment = label.characters := by
  rw [readLabel] at accepted
  split at accepted
  · cases accepted
    rfl
  · cases accepted

theorem eq_of_readIdentifier {segment : List Char} {identifier : Identifier}
    (accepted : readIdentifier segment = .ok identifier) :
    segment = identifier.characters := by
  obtain ⟨label, read, kind⟩ := of_bind_eq_ok accepted
  have same := eq_of_readLabel read
  split at kind
  · cases kind
    exact same
  · next numeric =>
      split at kind
      · cases kind
      · next noZero =>
          cases kind
          have digits : ∀ digit ∈ segment, Decimal.isDigit digit = true := by
            rw [same]
            simpa [Label.isNumeric] using numeric
          have nonempty : segment ≠ [] := by
            rw [same]
            exact label.wellFormed.1
          have stands : Decimal.ofDigits segment = label.value := by
            rw [same]
            rfl
          exact isNumeral_iff.mp ⟨nonempty, digits, length_of_noZero noZero, stands⟩

theorem eq_of_mapM {read : List Char → Parsed α} {print : α → List Char}
    (canonical : ∀ segment value, read segment = .ok value → segment = print value)
    {segments : List (List Char)} {values : List α} (accepted : segments.mapM read = .ok values) :
    segments = values.map print := by
  induction segments generalizing values with
  | nil =>
      cases accepted
      rfl
  | cons segment rest induction =>
      rw [List.mapM_cons] at accepted
      obtain ⟨value, here, later⟩ := of_bind_eq_ok accepted
      obtain ⟨others, inRest, whole⟩ := of_bind_eq_ok later
      cases whole
      rw [List.map_cons, ← canonical segment value here, ← induction inRest]

theorem eq_of_readSegments {read : List Char → Parsed α} {print : α → List Char}
    (canonical : ∀ segment value, read segment = .ok value → segment = print value)
    {text rest : List Char} {values : List α}
    (accepted : readSegments read text = .ok (values, rest)) :
    values ≠ [] ∧ text = dotted (values.map print) ++ rest := by
  obtain ⟨found, segments, whole⟩ := of_bind_eq_ok accepted
  cases whole
  have parts := eq_of_mapM canonical segments
  constructor
  · rintro rfl
    exact splitAt_ne_nil '.' _ parts
  · rw [← parts, dotted_eq_joinWith, join_splitAt, List.takeWhile_append_dropWhile]

theorem eq_nil_of_readEnd {part : VersionPart} {text : List Char}
    (accepted : readEnd part text = .ok ()) : text = [] := by
  cases text with
  | nil => rfl
  | cons found rest => cases accepted

theorem eq_of_readBuild {before : VersionPart} {text : List Char} {build : List Label}
    (accepted : readBuild before text = .ok build) : text = buildText build := by
  unfold readBuild at accepted
  split at accepted
  · obtain ⟨⟨labels, after⟩, segments, later⟩ := of_bind_eq_ok accepted
    obtain ⟨_, ended, whole⟩ := of_bind_eq_ok later
    cases whole
    obtain ⟨nonempty, same⟩ := eq_of_readSegments (fun _ _ => eq_of_readLabel) segments
    rw [same, eq_nil_of_readEnd ended, List.append_nil, buildText,
      if_neg (by simpa using nonempty)]
  · obtain ⟨_, ended, whole⟩ := of_bind_eq_ok accepted
    cases whole
    exact eq_nil_of_readEnd ended

theorem eq_of_readSuffix {text : List Char} {preRelease : List Identifier} {build : List Label}
    (accepted : readSuffix text = .ok (preRelease, build)) :
    text = preReleaseText preRelease ++ buildText build := by
  unfold readSuffix at accepted
  split at accepted
  · obtain ⟨⟨identifiers, after⟩, segments, later⟩ := of_bind_eq_ok accepted
    obtain ⟨labels, read, whole⟩ := of_bind_eq_ok later
    cases whole
    obtain ⟨nonempty, same⟩ := eq_of_readSegments (fun _ _ => eq_of_readIdentifier) segments
    rw [same, eq_of_readBuild read, preReleaseText, if_neg (by simpa using nonempty)]
    rfl
  · obtain ⟨labels, read, whole⟩ := of_bind_eq_ok accepted
    cases whole
    exact eq_of_readBuild read

theorem readStrict_iff {text : List Char} {version : Version} :
    readStrict text = .ok version ↔ text = version.characters := by
  constructor
  · intro accepted
    rw [readStrict] at accepted
    split at accepted
    · cases accepted
    · obtain ⟨⟨major, _⟩, first, afterMajor⟩ := of_bind_eq_ok accepted
      obtain ⟨_, firstDot, readMinor⟩ := of_bind_eq_ok afterMajor
      obtain ⟨⟨minor, _⟩, second, afterMinor⟩ := of_bind_eq_ok readMinor
      obtain ⟨_, secondDot, readPatch⟩ := of_bind_eq_ok afterMinor
      obtain ⟨⟨patch, _⟩, third, afterPatch⟩ := of_bind_eq_ok readPatch
      obtain ⟨⟨preRelease, build⟩, suffix, whole⟩ := of_bind_eq_ok afterPatch
      cases whole
      rw [eq_of_readNumber first, eq_of_readDot firstDot, eq_of_readNumber second,
        eq_of_readDot secondDot, eq_of_readNumber third, eq_of_readSuffix suffix,
        characters_eq_numbers]
  · rintro rfl
    exact readStrict_characters version

/-! ## The missing numbers -/

theorem zero_of_toDigits {number : UInt64} (digits : ['0'] = Decimal.toDigits number.toNat) :
    number = 0 := by
  have value := congrArg Decimal.ofDigits digits
  rw [Decimal.ofDigits_toDigits] at value
  exact UInt64.toNat_inj.mp value.symm

theorem padding_none {core : List Char} (nonempty : core ≠ []) (dots : core.count '.' = 0) :
    padding core = ['.', '0', '.', '0'] := by
  cases core with
  | nil => exact absurd rfl nonempty
  | cons first rest => simp only [padding, dots]

theorem padding_one {core : List Char} (dots : core.count '.' = 1) :
    padding core = ['.', '0'] := by
  simp only [padding, dots]

theorem padding_more {core : List Char} (dots : 2 ≤ core.count '.') : padding core = [] := by
  obtain ⟨more, count⟩ := Nat.exists_eq_add_of_le' dots
  simp only [padding, count]

theorem split_at_dot {front other rest after : List Char} (absent : '.' ∉ front)
    (absentOther : '.' ∉ other) (same : front ++ '.' :: rest = other ++ '.' :: after) :
    front = other ∧ rest = after := by
  have differ : ∀ {part : List Char}, '.' ∉ part → ∀ character ∈ part,
      (character != '.') = true := by
    intro part absent character member
    rw [bne_iff_ne]
    rintro rfl
    exact absent member
  have ends : ∀ rest : List Char, EndsRun (fun character => character != '.') ('.' :: rest) := by
    intro rest first here
    cases here
    rfl
  obtain ⟨front, rests⟩ :=
    append_inj_of_endsRun (differ absent) (ends rest) (differ absentOther) (ends after) same
  exact ⟨front, (List.cons.inj rests).2⟩

theorem coreCharacters_eq (major minor patch : UInt64) :
    (release major minor patch).coreCharacters =
      Decimal.toDigits major.toNat ++ '.' ::
        (Decimal.toDigits minor.toNat ++ '.' :: Decimal.toDigits patch.toNat) :=
  rfl

theorem padded_of_isCore {dots : Nat} {core : List Char} {major minor patch : UInt64}
    (numbers : IsCore dots core major minor patch) :
    core ++ padding core = (release major minor patch).coreCharacters := by
  rw [coreCharacters_eq]
  cases numbers with
  | one a =>
      rw [isNumeral_iff.mp a, padding_none (Decimal.toDigits_ne_nil _) (count_dot_toDigits _)]
      rfl
  | two a b =>
      rw [isNumeral_iff.mp a, isNumeral_iff.mp b, padding_one (by simp [count_dot_toDigits]),
        List.append_assoc, List.cons_append]
      rfl
  | three a b c =>
      rw [isNumeral_iff.mp a, isNumeral_iff.mp b, isNumeral_iff.mp c,
        padding_more (by simp [count_dot_toDigits]), List.append_nil]

/-- Padding does not make a core of anything else: what is padded has as many dots as the
zeros that are made up for leave. -/
theorem isCore_of_padded {core : List Char} {major minor patch : UInt64}
    (padded : core ++ padding core = (release major minor patch).coreCharacters) :
    ∃ dots, IsCore dots core major minor patch := by
  rw [coreCharacters_eq] at padded
  -- The number of dots tells how many zeros the padding has added.
  rcases Nat.lt_trichotomy (core.count '.') 1 with none | one | more
  · have count : core.count '.' = 0 := by omega
    have nonempty : core ≠ [] := by
      rintro rfl
      simp [padding] at padded
    rw [padding_none nonempty count] at padded
    obtain ⟨first, others⟩ :=
      split_at_dot (List.count_eq_zero.mp count) (not_mem_dot_toDigits _) padded
    have zeros : ['0'] ++ '.' :: ['0'] =
        Decimal.toDigits minor.toNat ++ '.' :: Decimal.toDigits patch.toNat := others
    obtain ⟨second, third⟩ := split_at_dot (by decide) (not_mem_dot_toDigits _) zeros
    rw [zero_of_toDigits second, zero_of_toDigits third]
    exact ⟨0, .one (isNumeral_iff.mpr first)⟩
  · obtain ⟨front, back, rfl, absent⟩ :=
      List.eq_append_cons_of_mem (List.count_pos_iff.mp (by omega : 0 < core.count '.'))
    have absentBack : '.' ∉ back := by
      have count := one
      rw [List.count_append, List.count_cons_self, List.count_eq_zero.mpr absent] at count
      exact List.count_eq_zero.mp (by omega)
    rw [padding_one one, List.append_assoc, List.cons_append] at padded
    obtain ⟨first, others⟩ := split_at_dot absent (not_mem_dot_toDigits _) padded
    obtain ⟨second, third⟩ := split_at_dot absentBack (not_mem_dot_toDigits _) others
    rw [zero_of_toDigits third]
    exact ⟨1, .two (isNumeral_iff.mpr first) (isNumeral_iff.mpr second)⟩
  · rw [padding_more more, List.append_nil] at padded
    rw [padded]
    exact ⟨2, .three (isNumeral_iff.mpr rfl) (isNumeral_iff.mpr rfl) (isNumeral_iff.mpr rfl)⟩

/-! ## What the lenient reader accepts -/

theorem isCoreCharacter_of_isCore {dots : Nat} {core : List Char} {major minor patch : UInt64}
    (numbers : IsCore dots core major minor patch) :
    ∀ character ∈ core, isCoreCharacter character = true := by
  intro character member
  have inWhole : character ∈ (release major minor patch).coreCharacters := by
    rw [← padded_of_isCore numbers]
    exact List.mem_append_left _ member
  exact isCoreCharacter_of_mem_core inWhole

theorem isCoreCharacter_of_mem_padding {core : List Char} {character : Char}
    (member : character ∈ padding core) : isCoreCharacter character = true := by
  have zeros : ∀ character ∈ ['.', '0', '.', '0'], isCoreCharacter character = true := by
    simp [isCoreCharacter]
  unfold padding at member
  split at member
  · cases member
  · exact zeros character member
  · exact zeros character (List.mem_append_right ['.', '0'] member)
  · cases member

/-- Completing a text gives the canonical text of a version just when one to three numbers
of the version are written, and all of the rest. -/
theorem complete_eq_characters_iff {text : List Char} {version : Version} :
    complete text = version.characters ↔ ∃ dots, IsPlain dots text version := by
  have suffixEnds : EndsRun isCoreCharacter
      (preReleaseText version.preRelease ++ buildText version.build) :=
    endsRun_suffix (by decide) (by decide) version.preRelease version.build
  constructor
  · intro completed
    have padded : ∀ character ∈ text.takeWhile isCoreCharacter ++
        padding (text.takeWhile isCoreCharacter), isCoreCharacter character = true := by
      intro character member
      rcases List.mem_append.mp member with core | zero
      · exact List.all_eq_true.mp List.all_takeWhile character core
      · exact isCoreCharacter_of_mem_padding zero
    have whole : ∀ character ∈ version.coreCharacters, isCoreCharacter character = true :=
      fun _ => isCoreCharacter_of_mem_core
    rw [complete, characters_eq] at completed
    obtain ⟨core, suffix⟩ :=
      append_inj_of_endsRun padded (endsRun_dropWhile text) whole suffixEnds completed
    obtain ⟨dots, numbers⟩ := isCore_of_padded core
    refine ⟨dots, isPlain_iff.mpr ⟨_, numbers, ?_⟩⟩
    rw [← suffix, List.takeWhile_append_dropWhile]
  · rintro ⟨dots, plain⟩
    obtain ⟨core, numbers, rfl⟩ := isPlain_iff.mp plain
    have run := isCoreCharacter_of_isCore numbers
    rw [complete, takeWhile_append_of_endsRun run suffixEnds,
      dropWhile_append_of_endsRun run suffixEnds, padded_of_isCore numbers, characters_eq]
    rfl

theorem exists_eq_withoutMark (text : List Char) :
    ∃ mark ∈ [[], ['v'], ['V']], text = mark ++ withoutMark text := by
  unfold withoutMark
  split
  · exact ⟨['v'], by simp, rfl⟩
  · exact ⟨['V'], by simp, rfl⟩
  · exact ⟨[], by simp, rfl⟩

theorem withoutMark_append {mark others : List Char} {first : Char}
    (marked : mark ∈ [[], ['v'], ['V']]) (digit : Decimal.isDigit first = true) :
    withoutMark (mark ++ first :: others) = first :: others := by
  simp only [List.mem_cons, List.not_mem_nil, or_false] at marked
  rcases marked with rfl | rfl | rfl
  · rw [List.nil_append, withoutMark]
    · intro rest same
      exact Decimal.ne_of_isDigit digit rfl (List.cons.inj same).1
    · intro rest same
      exact Decimal.ne_of_isDigit digit rfl (List.cons.inj same).1
  · rfl
  · rfl

theorem starts_of_isCore {dots : Nat} {core : List Char} {major minor patch : UInt64}
    (numbers : IsCore dots core major minor patch) :
    ∃ rest, core = Decimal.toDigits major.toNat ++ rest := by
  cases numbers with
  | one a => exact ⟨[], by rw [isNumeral_iff.mp a, List.append_nil]⟩
  | two a b => exact ⟨_, by rw [isNumeral_iff.mp a]⟩
  | three a b c => exact ⟨_, by rw [isNumeral_iff.mp a]⟩

theorem exists_digit_of_isPlain {dots : Nat} {body : List Char} {version : Version}
    (plain : IsPlain dots body version) :
    ∃ first others, body = first :: others ∧ Decimal.isDigit first = true := by
  obtain ⟨core, numbers, rfl⟩ := isPlain_iff.mp plain
  obtain ⟨rest, rfl⟩ := starts_of_isCore numbers
  obtain ⟨first, others, digits, digit⟩ := Decimal.exists_toDigits_eq_cons version.major.toNat
  rw [digits]
  exact ⟨first, _, rfl, digit⟩

theorem mem_complete {text : List Char} {character : Char} (member : character ∈ text) :
    character ∈ complete text := by
  have split : text.takeWhile isCoreCharacter ++ text.dropWhile isCoreCharacter = text :=
    List.takeWhile_append_dropWhile
  rw [← split, List.mem_append] at member
  simp only [complete, List.mem_append]
  rcases member with core | suffix
  · exact .inl (.inl core)
  · exact .inr suffix

theorem not_isBlank_of_isPlain {dots : Nat} {body : List Char} {version : Version}
    (plain : IsPlain dots body version) {character : Char} (member : character ∈ body) :
    isBlank character = false := by
  have completed := complete_eq_characters_iff.mpr ⟨dots, plain⟩
  have inWhole := mem_complete member
  rw [completed] at inWhole
  exact not_isBlank_of_mem inWhole

theorem isLenient_iff {text : List Char} {version : Version} :
    IsLenient text version ↔
      ∃ dots, IsPlain dots (withoutMark (trimCharacters text)) version := by
  constructor
  · intro lenient
    cases lenient with
    | @intro front mark body back dots _ blankFront marked plain blankBack =>
        have solid : ∀ character ∈ mark ++ body, isBlank character = false := by
          intro character member
          rcases List.mem_append.mp member with inMark | inBody
          · have letters : ∀ mark ∈ [[], ['v'], ['V']], ∀ character ∈ mark,
                isBlank character = false := by
              simp [isBlank]
            exact letters mark marked character inMark
          · exact not_isBlank_of_isPlain plain inBody
        obtain ⟨first, others, rfl, digit⟩ := exists_digit_of_isPlain plain
        rw [trimCharacters_append blankFront blankBack (by simp) solid,
          withoutMark_append marked digit]
        exact ⟨dots, plain⟩
  · rintro ⟨dots, plain⟩
    obtain ⟨front, back, blankFront, blankBack, trimmed⟩ := exists_eq_trimCharacters text
    obtain ⟨mark, marked, unmarked⟩ := exists_eq_withoutMark (trimCharacters text)
    rw [trimmed, unmarked]
    exact .intro blankFront marked plain blankBack

/-- The lenient reader accepts exactly the lenient texts and gives the version that is
written, the strict reader does the same with the strict ones, and what the strict reader
accepts is the same version to the lenient one. -/
theorem read_iff_lenient (text : String) (version : Version) :
    (read text = .ok version ↔ IsLenient text.toList version) ∧
      (readStrict text.toList = .ok version ↔ IsStrict text.toList version) ∧
      (readStrict text.toList = .ok version → read text = .ok version) := by
  refine ⟨?_, readStrict_iff.trans isStrict_iff.symm, ?_⟩
  · rw [read, readCharacters, readStrict_iff, complete_eq_characters_iff, isLenient_iff]
  · intro strict
    have canonical : text.toList = version.characters := readStrict_iff.mp strict
    have back := read_text version
    rw [read, Version.text, String.toList_ofList, ← canonical] at back
    exact back

end Version

end StoreMigration
