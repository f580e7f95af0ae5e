import StoreMigration.Proofs.Text.Scanning
import StoreMigration.Version.Reader

/-! Versions that are written read back (`Version.read_text`), by the strict reader as
well as by the lenient one, which finds nothing to trim, to drop or to make up for. -/

namespace StoreMigration

open Text

/-! ## The characters of a version -/

theorem isLabelCharacter_of_isDigit {character : Char} (digit : Decimal.isDigit character = true) :
    isLabelCharacter character = true := by
  simp [isLabelCharacter, digit]

theorem not_mem_dot {characters : List Char}
    (wellFormed : characters.all isLabelCharacter = true) : '.' ∉ characters := by
  intro member
  have label := List.all_eq_true.mp wellFormed '.' member
  exact absurd label (by decide)

theorem not_isBlank_of_isLabelCharacter {character : Char}
    (label : isLabelCharacter character = true) : isBlank character = false := by
  have bounds : ∀ low high : Char, low ≤ character → character ≤ high →
      low.toNat ≤ character.toNat ∧ character.toNat ≤ high.toNat :=
    fun _ _ above below => ⟨above, below⟩
  simp only [isLabelCharacter, Decimal.isDigit, Bool.or_eq_true, Bool.and_eq_true,
    decide_eq_true_eq] at label
  have range : 45 ≤ character.toNat ∧ character.toNat ≤ 122 := by
    rcases label with ((⟨above, below⟩ | ⟨above, below⟩) | ⟨above, below⟩) | rfl
    · have digits : 48 ≤ character.toNat ∧ character.toNat ≤ 57 := bounds '0' '9' above below
      omega
    · have lower : 97 ≤ character.toNat ∧ character.toNat ≤ 122 := bounds 'a' 'z' above below
      omega
    · have upper : 65 ≤ character.toNat ∧ character.toNat ≤ 90 := bounds 'A' 'Z' above below
      omega
    · decide
  rcases range with ⟨low, high⟩
  simp [isBlank]
  omega

namespace Identifier

theorem characters_wellFormed (identifier : Identifier) :
    identifier.characters ≠ [] ∧ identifier.characters.all isLabelCharacter = true := by
  cases identifier with
  | number value =>
      refine ⟨Decimal.toDigits_ne_nil value, List.all_eq_true.mpr ?_⟩
      intro character member
      exact isLabelCharacter_of_isDigit (Decimal.isDigit_of_mem_toDigits member)
  | word label named => exact label.wellFormed

end Identifier

namespace Version

/-! ## Reading the parts -/

theorem readNumber_toDigits (part : VersionPart) (number : UInt64) {rest : List Char}
    (ends : EndsRun Decimal.isDigit rest) :
    readNumber part (Decimal.toDigits number.toNat ++ rest) = .ok (number, rest) := by
  have digits : ∀ character ∈ Decimal.toDigits number.toNat, Decimal.isDigit character = true :=
    fun _ member => Decimal.isDigit_of_mem_toDigits member
  have nonempty : (Decimal.toDigits number.toNat).isEmpty = false := by
    rw [List.isEmpty_eq_false_iff]
    exact Decimal.toDigits_ne_nil number.toNat
  have noZero : ¬ ((Decimal.toDigits number.toNat).head? = some '0' ∧
      (Decimal.toDigits number.toNat).length > 1) := by
    rintro ⟨zero, long⟩
    rw [Decimal.length_toDigits_of_head zero] at long
    omega
  have fits : number.toNat < UInt64.size := number.toNat_lt
  simp only [readNumber, takeWhile_append_of_endsRun digits ends,
    dropWhile_append_of_endsRun digits ends, nonempty, noZero, Decimal.ofDigits_toDigits, fits,
    Bool.false_eq_true, if_false, if_true, UInt64.ofNat_toNat]

theorem readLabel_characters (part : VersionPart) (label : Label) :
    readLabel part label.characters = .ok label := by
  simp [readLabel, label.wellFormed]

theorem readIdentifier_characters (identifier : Identifier) :
    readIdentifier identifier.characters = .ok identifier := by
  have wellFormed := identifier.characters_wellFormed
  have found : readLabel .preRelease identifier.characters =
      .ok ⟨identifier.characters, wellFormed⟩ :=
    readLabel_characters .preRelease ⟨identifier.characters, wellFormed⟩
  rw [readIdentifier, found]
  cases identifier with
  | number value =>
      have numeric : (Label.mk (Identifier.number value).characters wellFormed).isNumeric = true :=
        List.all_eq_true.mpr fun _ member => Decimal.isDigit_of_mem_toDigits member
      have same : (Label.mk (Identifier.number value).characters wellFormed).value = value :=
        Decimal.ofDigits_toDigits value
      have noZero : ¬ ((Identifier.number value).characters.head? = some '0' ∧
          (Identifier.number value).characters.length > 1) := by
        rintro ⟨zero, long⟩
        have short : (Identifier.number value).characters.length = 1 :=
          Decimal.length_toDigits_of_head zero
        omega
      show (if named : _ = false then _ else _) = _
      rw [dif_neg (by rw [numeric]; decide), if_neg noZero, same]
      rfl
  | word label named =>
      exact dif_pos named

/-! ## Reading the segments -/

theorem dotted_eq_joinWith (parts : List (List Char)) : dotted parts = joinWith '.' parts := by
  induction parts with
  | nil => rfl
  | cons part rest induction =>
      cases rest with
      | nil => rfl
      | cons next others => rw [dotted, joinWith, induction]

theorem mapM_read {read : List Char → Parsed α} {print : α → List Char}
    (back : ∀ value, read (print value) = .ok value) (values : List α) :
    (values.map print).mapM read = .ok values := by
  induction values with
  | nil => rfl
  | cons value rest induction =>
      rw [List.map_cons, List.mapM_cons, back, induction]
      rfl

theorem isSuffixCharacter_of_mem_dotted {parts : List (List Char)}
    (labels : ∀ part ∈ parts, part.all isLabelCharacter = true) {character : Char}
    (member : character ∈ dotted parts) : isSuffixCharacter character = true := by
  rw [dotted_eq_joinWith] at member
  rcases mem_joinWith member with rfl | ⟨part, inParts, inPart⟩
  · decide
  · have label := List.all_eq_true.mp (labels part inParts) character inPart
    simp [isSuffixCharacter, label]

theorem readSegments_dotted {read : List Char → Parsed α} {print : α → List Char}
    (back : ∀ value, read (print value) = .ok value)
    (labels : ∀ value, (print value).all isLabelCharacter = true) {values : List α}
    (some : values ≠ []) {rest : List Char} (ends : EndsRun isSuffixCharacter rest) :
    readSegments read (dotted (values.map print) ++ rest) = .ok (values, rest) := by
  have allLabels : ∀ part ∈ values.map print, part.all isLabelCharacter = true := by
    intro part member
    rcases List.mem_map.mp member with ⟨value, _, rfl⟩
    exact labels value
  have run : ∀ character ∈ dotted (values.map print), isSuffixCharacter character = true :=
    fun _ member => isSuffixCharacter_of_mem_dotted allLabels member
  have parts : splitAt '.' (dotted (values.map print)) = values.map print := by
    rw [dotted_eq_joinWith]
    apply splitAt_joinWith
    · intro empty
      exact some (List.map_eq_nil_iff.mp empty)
    · intro part member
      exact not_mem_dot (allLabels part member)
  rw [readSegments, takeWhile_append_of_endsRun run ends, dropWhile_append_of_endsRun run ends,
    parts, mapM_read back]
  rfl

/-! ## Reading the whole text -/

def buildText (build : List Label) : List Char :=
  if build.isEmpty then [] else '+' :: dotted (build.map Label.characters)

def preReleaseText (preRelease : List Identifier) : List Char :=
  if preRelease.isEmpty then [] else '-' :: dotted (preRelease.map Identifier.characters)

theorem characters_eq (version : Version) :
    version.characters =
      version.coreCharacters ++ (preReleaseText version.preRelease ++ buildText version.build) :=
  List.append_assoc _ _ _

theorem endsRun_buildText {holds : Char → Bool} (sign : holds '+' = false) (build : List Label) :
    EndsRun holds (buildText build) := by
  intro first here
  rw [buildText] at here
  split at here
  · cases here
  · cases here
    exact sign

theorem endsRun_suffix {holds : Char → Bool} (hyphen : holds '-' = false)
    (sign : holds '+' = false) (preRelease : List Identifier) (build : List Label) :
    EndsRun holds (preReleaseText preRelease ++ buildText build) := by
  cases preRelease with
  | nil => exact endsRun_buildText sign build
  | cons identifier others =>
      intro first here
      cases here
      exact hyphen

theorem readBuild_text (before : VersionPart) (build : List Label) :
    readBuild before (buildText build) = .ok build := by
  cases build with
  | nil => rfl
  | cons label others =>
      have segments : readSegments (readLabel .build)
          (dotted ((label :: others).map Label.characters) ++ []) = .ok (label :: others, []) :=
        readSegments_dotted (readLabel_characters .build) (fun label => label.wellFormed.2)
          (List.cons_ne_nil label others) (fun _ here => by cases here)
      rw [List.append_nil] at segments
      show (readSegments (readLabel .build) (dotted ((label :: others).map Label.characters)) >>=
        fun found => readEnd .build found.2 >>= fun _ => pure found.1) = _
      rw [segments]
      rfl

theorem readSuffix_text (preRelease : List Identifier) (build : List Label) :
    readSuffix (preReleaseText preRelease ++ buildText build) = .ok (preRelease, build) := by
  cases preRelease with
  | nil =>
      have plain : readSuffix (buildText build) =
          (readBuild .patch (buildText build) >>= fun build => pure ([], build)) := by
        cases build with
        | nil => rfl
        | cons label others => rfl
      show readSuffix (buildText build) = _
      rw [plain, readBuild_text]
      rfl
  | cons identifier others =>
      have segments : readSegments readIdentifier
          (dotted ((identifier :: others).map Identifier.characters) ++ buildText build) =
            .ok (identifier :: others, buildText build) :=
        readSegments_dotted readIdentifier_characters
          (fun identifier => identifier.characters_wellFormed.2)
          (List.cons_ne_nil identifier others) (endsRun_buildText (by decide) build)
      show (readSegments readIdentifier
          (dotted ((identifier :: others).map Identifier.characters) ++ buildText build) >>=
        fun found => readBuild .preRelease found.2 >>= fun build => pure (found.1, build)) = _
      rw [segments]
      show (readBuild .preRelease (buildText build) >>= fun build =>
        pure (identifier :: others, build)) = _
      rw [readBuild_text]
      rfl

theorem characters_eq_numbers (version : Version) :
    version.characters =
      Decimal.toDigits version.major.toNat ++ '.' ::
        (Decimal.toDigits version.minor.toNat ++ '.' ::
          (Decimal.toDigits version.patch.toNat ++
            (preReleaseText version.preRelease ++ buildText version.build))) := by
  rw [characters_eq, coreCharacters]
  simp only [List.append_assoc, List.cons_append]

theorem readStrict_characters (version : Version) :
    readStrict version.characters = .ok version := by
  have dotEnds : ∀ rest, EndsRun Decimal.isDigit ('.' :: rest) := by
    intro rest first here
    cases here
    rfl
  have suffixEnds : EndsRun Decimal.isDigit
      (preReleaseText version.preRelease ++ buildText version.build) :=
    endsRun_suffix (by decide) (by decide) version.preRelease version.build
  have nonempty : version.characters.isEmpty = false := by
    rw [List.isEmpty_eq_false_iff, characters_eq_numbers]
    intro empty
    exact Decimal.toDigits_ne_nil _ (List.append_eq_nil_iff.mp empty).1
  rw [readStrict, nonempty, characters_eq_numbers]
  simp only [Bool.false_eq_true, if_false, readNumber_toDigits .major version.major (dotEnds _),
    readNumber_toDigits .minor version.minor (dotEnds _),
    readNumber_toDigits .patch version.patch suffixEnds, readDot, readSuffix_text,
    Except.bind, bind, pure, Except.pure]

/-! ## Nothing to be lenient about -/

theorem dot_or_digit_of_mem_core {version : Version} {character : Char}
    (member : character ∈ version.coreCharacters) :
    character = '.' ∨ Decimal.isDigit character = true := by
  simp only [coreCharacters, List.mem_append, List.mem_cons] at member
  rcases member with major | dot | minor | dot | patch
  · exact .inr (Decimal.isDigit_of_mem_toDigits major)
  · exact .inl dot
  · exact .inr (Decimal.isDigit_of_mem_toDigits minor)
  · exact .inl dot
  · exact .inr (Decimal.isDigit_of_mem_toDigits patch)

theorem isCoreCharacter_of_isDigit {character : Char} (digit : Decimal.isDigit character = true) :
    isCoreCharacter character = true := by
  simp only [isCoreCharacter, Bool.and_eq_true, bne_iff_ne]
  exact ⟨Decimal.ne_of_isDigit digit rfl, Decimal.ne_of_isDigit digit rfl⟩

theorem isCoreCharacter_of_mem_core {version : Version} {character : Char}
    (member : character ∈ version.coreCharacters) : isCoreCharacter character = true := by
  rcases dot_or_digit_of_mem_core member with rfl | digit
  · decide
  · exact isCoreCharacter_of_isDigit digit

theorem not_mem_dot_toDigits (value : Nat) : '.' ∉ Decimal.toDigits value := by
  intro member
  exact Decimal.ne_of_isDigit (Decimal.isDigit_of_mem_toDigits member) rfl rfl

theorem count_dot_toDigits (value : Nat) : (Decimal.toDigits value).count '.' = 0 :=
  List.count_eq_zero.mpr (not_mem_dot_toDigits value)

theorem count_dot_core (version : Version) : version.coreCharacters.count '.' = 2 := by
  simp [coreCharacters, count_dot_toDigits]

theorem complete_characters (version : Version) : complete version.characters = version.characters := by
  have core : ∀ character ∈ version.coreCharacters, isCoreCharacter character = true :=
    fun _ => isCoreCharacter_of_mem_core
  have ends : EndsRun isCoreCharacter
      (preReleaseText version.preRelease ++ buildText version.build) :=
    endsRun_suffix (by decide) (by decide) version.preRelease version.build
  have nothing : padding version.coreCharacters = [] := by
    simp [padding, count_dot_core]
  rw [characters_eq, complete, takeWhile_append_of_endsRun core ends,
    dropWhile_append_of_endsRun core ends, nothing, List.append_nil]

theorem withoutMark_characters (version : Version) :
    withoutMark version.characters = version.characters := by
  rcases Decimal.exists_toDigits_eq_cons version.major.toNat with ⟨first, others, digits, digit⟩
  rw [characters_eq_numbers, digits, List.cons_append, withoutMark]
  · intro rest same
    exact Decimal.ne_of_isDigit digit rfl (List.cons.inj same).1
  · intro rest same
    exact Decimal.ne_of_isDigit digit rfl (List.cons.inj same).1

theorem not_isBlank_of_mem {version : Version} {character : Char}
    (member : character ∈ version.characters) : isBlank character = false := by
  have suffix : ∀ parts : List (List Char),
      (∀ part ∈ parts, part.all isLabelCharacter = true) →
        character ∈ dotted parts → isBlank character = false := by
    intro parts labels inDotted
    have kind := isSuffixCharacter_of_mem_dotted labels inDotted
    rcases Bool.or_eq_true_iff.mp kind with label | dot
    · exact not_isBlank_of_isLabelCharacter label
    · rw [of_decide_eq_true dot]
      decide
  rw [characters_eq, List.mem_append, List.mem_append] at member
  rcases member with core | preRelease | build
  · rcases dot_or_digit_of_mem_core core with rfl | digit
    · decide
    · exact not_isBlank_of_isLabelCharacter (isLabelCharacter_of_isDigit digit)
  · rw [preReleaseText] at preRelease
    split at preRelease
    · cases preRelease
    · rcases List.mem_cons.mp preRelease with rfl | inDotted
      · decide
      · apply suffix _ _ inDotted
        intro part inParts
        rcases List.mem_map.mp inParts with ⟨identifier, _, rfl⟩
        exact identifier.characters_wellFormed.2
  · rw [buildText] at build
    split at build
    · cases build
    · rcases List.mem_cons.mp build with rfl | inDotted
      · decide
      · apply suffix _ _ inDotted
        intro part inParts
        rcases List.mem_map.mp inParts with ⟨label, _, rfl⟩
        exact label.wellFormed.2

theorem trimCharacters_characters (version : Version) :
    trimCharacters version.characters = version.characters := by
  apply trimCharacters_eq_self
  · intro first here
    exact not_isBlank_of_mem (List.mem_of_head? here)
  · intro last here
    exact not_isBlank_of_mem (List.mem_of_getLast? here)

theorem read_text (version : Version) : read version.text = .ok version := by
  rw [read, text, String.toList_ofList, readCharacters, trimCharacters_characters,
    withoutMark_characters, complete_characters, readStrict_characters]

end Version

end StoreMigration
