/-! Text shown between quotation marks in messages: what cannot be seen on the
page is written as an escape. -/

namespace StoreMigration.Text

/-! ## What cannot be seen -/

/-- Ranges of characters outside ASCII without a shape of their own: controls,
separators, format characters, marks that combine with the character before
them, private use and the code points set aside as noncharacters. -/
def invisibleRanges : List (Nat × Nat) :=
  [(0x80, 0xa0), (0xad, 0xad), (0x300, 0x36f), (0x483, 0x489), (0x591, 0x5bd),
    (0x5bf, 0x5bf), (0x5c1, 0x5c2), (0x5c4, 0x5c5), (0x5c7, 0x5c7), (0x600, 0x605),
    (0x610, 0x61a), (0x61c, 0x61c), (0x64b, 0x65f), (0x670, 0x670), (0x6d6, 0x6dd),
    (0x6df, 0x6e4), (0x6e7, 0x6e8), (0x6ea, 0x6ed), (0x70f, 0x70f), (0x711, 0x711),
    (0x730, 0x74a), (0x1680, 0x1680), (0x180b, 0x180f), (0x1ab0, 0x1ace),
    (0x1dc0, 0x1dff), (0x2000, 0x200f), (0x2028, 0x202f), (0x205f, 0x206f),
    (0x20d0, 0x20f0), (0x302a, 0x302f), (0x3000, 0x3000), (0x3099, 0x309a),
    (0xd800, 0xf8ff), (0xfb1e, 0xfb1e), (0xfdd0, 0xfdef), (0xfe00, 0xfe0f),
    (0xfe20, 0xfe2f), (0xfeff, 0xfeff), (0xff9e, 0xff9f), (0xfff0, 0xfffb),
    (0xfffe, 0xffff), (0x1d165, 0x1d166), (0x1d16d, 0x1d182), (0x1fffe, 0x1ffff),
    (0xe0000, 0x10ffff)]

def isInvisible (character : Char) : Bool :=
  let code := character.toNat
  code < 0x20 || code == 0x7f ||
    invisibleRanges.any fun range => range.1 ≤ code && code ≤ range.2

example : isInvisible '\u0301' = true ∧ isInvisible 'é' = false ∧ isInvisible '日' = false := by
  decide

/-! ## Quoting -/

/-- One character inside quotation marks. Only the mark that encloses the text is
escaped, so a single quote stands plain inside double quotes. -/
def escapeWithin (mark character : Char) : List Char :=
  if character = mark then ['\\', mark]
  else if character = '\\' then ['\\', '\\']
  else if character = '\x00' then ['\\', '0']
  else if character = '\t' then ['\\', 't']
  else if character = '\n' then ['\\', 'n']
  else if character = '\x0d' then ['\\', 'r']
  else if isInvisible character then
    ['\\', 'u', '\x7b'] ++ Nat.toDigits 16 character.toNat ++ ['\x7d']
  else [character]

def quoted (text : String) : String :=
  String.ofList (['\x22'] ++ text.toList.flatMap (escapeWithin '\x22') ++ ['\x22'])

def quotedCharacter (character : Char) : String :=
  String.ofList (['\x27'] ++ escapeWithin '\x27' character ++ ['\x27'])

end StoreMigration.Text
