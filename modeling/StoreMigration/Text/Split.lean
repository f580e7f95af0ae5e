/-! Texts with separators. The main statements are `splitAt_ne_nil` and
`join_splitAt`: there is always a part, and joining the parts again gives the
text. -/

namespace StoreMigration.Text

def splitAt (separator : Char) : List Char → List (List Char)
  | [] => [[]]
  | character :: rest =>
      if character = separator then [] :: splitAt separator rest
      else
        match splitAt separator rest with
        | [] => [[character]]
        | part :: parts => (character :: part) :: parts

def joinWith (separator : Char) : List (List Char) → List Char
  | [] => []
  | [part] => part
  | part :: next :: parts => part ++ separator :: joinWith separator (next :: parts)

example : splitAt '.' ['a', '.', 'b', '.'] = [['a'], ['b'], []] := by decide

theorem splitAt_ne_nil (separator : Char) (text : List Char) : splitAt separator text ≠ [] := by
  cases text with
  | nil => simp [splitAt]
  | cons character rest =>
      rw [splitAt]
      split
      · simp
      · split <;> simp

theorem join_splitAt (separator : Char) (text : List Char) :
    joinWith separator (splitAt separator text) = text := by
  induction text with
  | nil => rfl
  | cons character rest induction =>
      rw [splitAt]
      cases parts : splitAt separator rest with
      | nil => exact absurd parts (splitAt_ne_nil separator rest)
      | cons part more =>
          rw [parts] at induction
          split
          · next equal => simp [joinWith, induction, equal]
          · cases more with
            | nil => simpa [joinWith] using induction
            | cons next others => simpa [joinWith] using induction

end StoreMigration.Text
