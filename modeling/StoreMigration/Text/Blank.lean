/-! White space as Unicode defines it, and text with the white space at both
ends taken off. The main statement is `trimCharacters_eq_self`: a text whose two
ends are solid is left as it is. -/

namespace StoreMigration.Text

/-- The characters with the Unicode property `White_Space`. -/
def isBlank (character : Char) : Bool :=
  let code := character.toNat
  (0x09 ≤ code && code ≤ 0x0d) || code == 0x20 || code == 0x85 || code == 0xa0 ||
    code == 0x1680 || (0x2000 ≤ code && code ≤ 0x200a) || code == 0x2028 ||
    code == 0x2029 || code == 0x202f || code == 0x205f || code == 0x3000

example : isBlank '\u0085' = true ∧ isBlank '\u200b' = false ∧ isBlank '\ufeff' = false := by
  decide

/-! ## Trimming -/

def trimStart (characters : List Char) : List Char :=
  characters.dropWhile isBlank

def trimEnd (characters : List Char) : List Char :=
  (characters.reverse.dropWhile isBlank).reverse

def trimCharacters (characters : List Char) : List Char :=
  trimEnd (trimStart characters)

def trim (text : String) : String :=
  String.ofList (trimCharacters text.toList)

example : trimCharacters [' ', 'a', ' ', 'b', '\u3000'] = ['a', ' ', 'b'] := by decide

theorem trimStart_eq_self {characters : List Char}
    (solid : ∀ first, characters.head? = some first → isBlank first = false) :
    trimStart characters = characters := by
  cases characters with
  | nil => rfl
  | cons first rest => simp [trimStart, List.dropWhile, solid first rfl]

theorem trimEnd_eq_self {characters : List Char}
    (solid : ∀ last, characters.getLast? = some last → isBlank last = false) :
    trimEnd characters = characters := by
  have reversed : trimStart characters.reverse = characters.reverse :=
    trimStart_eq_self (by simpa [List.head?_reverse] using solid)
  simpa [trimStart, trimEnd] using congrArg List.reverse reversed

theorem trimCharacters_eq_self {characters : List Char}
    (solidStart : ∀ first, characters.head? = some first → isBlank first = false)
    (solidEnd : ∀ last, characters.getLast? = some last → isBlank last = false) :
    trimCharacters characters = characters := by
  rw [trimCharacters, trimStart_eq_self solidStart, trimEnd_eq_self solidEnd]

end StoreMigration.Text
