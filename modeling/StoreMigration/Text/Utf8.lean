/-! Bytes as text. Bytes that are no part of a well-formed character are replaced:
each longest beginning of a character that breaks off becomes one replacement
character. -/

namespace StoreMigration.Text.Utf8

def replacement : Char := '\ufffd'

structure Begun where
  value : Nat
  /-- How many bytes are to follow after the next one. -/
  after : Nat
  /-- The next byte lies between these two. -/
  low : Nat
  high : Nat

inductive Start where
  | whole (character : Char)
  | begun (rest : Begun)
  | invalid

/-- The first byte of a character tells how many follow. The range of the second one
leaves out the forms that are longer than they need be, the surrogates and the
numbers above those of all characters. -/
def start (byte : Nat) : Start :=
  if byte < 0x80 then .whole (Char.ofNat byte)
  else if byte < 0xc2 then .invalid
  else if byte < 0xe0 then .begun ⟨byte - 0xc0, 0, 0x80, 0xbf⟩
  else if byte = 0xe0 then .begun ⟨0, 1, 0xa0, 0xbf⟩
  else if byte = 0xed then .begun ⟨0xd, 1, 0x80, 0x9f⟩
  else if byte < 0xf0 then .begun ⟨byte - 0xe0, 1, 0x80, 0xbf⟩
  else if byte = 0xf0 then .begun ⟨0, 2, 0x90, 0xbf⟩
  else if byte < 0xf4 then .begun ⟨byte - 0xf0, 2, 0x80, 0xbf⟩
  else if byte = 0xf4 then .begun ⟨4, 2, 0x80, 0x8f⟩
  else .invalid

def restart (byte : Nat) : List Char × Option Begun :=
  match start byte with
  | .whole character => ([character], none)
  | .begun rest => ([], some rest)
  | .invalid => ([replacement], none)

def step (byte : Nat) : Option Begun → List Char × Option Begun
  | none => restart byte
  | some begun =>
      if begun.low ≤ byte && byte ≤ begun.high then
        let value := begun.value * 64 + byte % 64
        match begun.after with
        | 0 => ([Char.ofNat value], none)
        | after + 1 => ([], some ⟨value, after, 0x80, 0xbf⟩)
      else
        let (characters, rest) := restart byte
        (replacement :: characters, rest)

def decodeFrom : Option Begun → List UInt8 → List Char
  | none, [] => []
  | some _, [] => [replacement]
  | begun, byte :: rest =>
      let (characters, begun) := step byte.toNat begun
      characters ++ decodeFrom begun rest

def decode (bytes : List UInt8) : List Char :=
  decodeFrom none bytes

example : decode [0x61, 0xc3, 0xa9, 0xe9] = ['a', 'é', '\ufffd'] := by decide

example : decode [0xe2, 0x82, 0x41, 0xf0, 0x9f, 0x98, 0x80] = ['\ufffd', 'A', '😀'] := by decide

example : decode [0x32, 0x2e, 0x31] = ['2', '.', '1'] := by decide

def encode (characters : List Char) : List UInt8 :=
  characters.flatMap String.utf8EncodeChar

end StoreMigration.Text.Utf8
