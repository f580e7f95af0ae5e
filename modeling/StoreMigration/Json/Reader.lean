import StoreMigration.Json.Basic
import StoreMigration.Text.Decimal
import StoreMigration.Text.Hexadecimal

/-! Reading JSON text. A `ReadingPolicy` says how much the reader accepts beyond the
grammar: how deeply containers may be nested, and whether every string and number
has to have a value. A failure names the line and the byte at which it was seen. -/

namespace StoreMigration

inductive ReadFault where
  | numberOutOfRange
  | nestedTooDeep
  | unfinishedSurrogate
  | unpairedSurrogate
  | unexpectedRest
  | malformed
  deriving DecidableEq, Repr

structure ReadError where
  fault : ReadFault
  line : Nat
  column : Nat
  deriving DecidableEq, Repr

/-- What a reader accepts beyond the grammar. `everyTextHasValue` refuses
surrogates without a partner and numbers that no double can hold. -/
structure ReadingPolicy where
  nesting : Nat
  everyTextHasValue : Bool

namespace ReadFault

def message : ReadFault → String
  | numberOutOfRange => "number out of range"
  | nestedTooDeep => "recursion limit exceeded"
  | unfinishedSurrogate => "unexpected end of hex escape"
  | unpairedSurrogate => "lone leading surrogate in hex escape"
  | unexpectedRest => "trailing characters"
  | malformed => "expected value"

end ReadFault

def ReadError.message (error : ReadError) : String :=
  error.fault.message ++ " at line " ++ Text.Decimal.text error.line ++ " column " ++
    Text.Decimal.text error.column

namespace Json

/-- The text of stored objects becomes a value when fewer than 128 containers lie
inside one another. -/
def valuePolicy : ReadingPolicy := ⟨127, true⟩

/-- What counts as JSON text at all: up to 1000 containers inside one another, with
surrogates and numbers that have no value. -/
def textPolicy : ReadingPolicy := ⟨1000, false⟩

/-! ## Where reading stopped -/

/-- A fault, the text still ahead where it was seen, and the number of bytes of
that text that count as seen too. -/
structure Stop where
  fault : ReadFault
  ahead : List Char
  further : Nat

abbrev Reading (α : Type) := Except Stop (α × List Char)

def malformedAt (ahead : List Char) : Reading α :=
  .error ⟨.malformed, ahead, 0⟩

/-- Line and byte column after the given characters, both counted from one line
start. -/
def position (seen : List Char) : Nat × Nat :=
  seen.foldl (fun place character =>
    if character = '\n' then (place.1 + 1, 0) else (place.1, place.2 + character.utf8Size)) (1, 0)

def Stop.locate (text : List Char) (stop : Stop) : ReadError :=
  let place := position (text.take (text.length - stop.ahead.length))
  ⟨stop.fault, place.1, place.2 + stop.further⟩

/-! ## White space and numbers -/

def isLayout (character : Char) : Bool :=
  character = ' ' || character = '\n' || character = '\t' || character = '\x0d'

def skipLayout (characters : List Char) : List Char :=
  characters.dropWhile isLayout

def spanDigits (characters : List Char) : List Char × List Char :=
  (characters.takeWhile Text.Decimal.isDigit, characters.dropWhile Text.Decimal.isDigit)

/-- Take digits into a significand of 64 bits until one does not fit; the number of
digits left over is returned with it. -/
def accumulate : Nat → List Char → Nat × Nat
  | significand, [] => (significand, 0)
  | significand, digit :: rest =>
      let next := significand * 10 + Text.Decimal.digitValue digit
      if next < UInt64.size then accumulate next rest else (significand, rest.length + 1)

/-- The decimal exponent written after `e`, when its digits fit into 31 bits.
Otherwise the text after the digit that did not fit. -/
def accumulateExponent : Nat → List Char → Nat ⊕ List Char
  | value, [] => .inl value
  | value, digit :: rest =>
      let next := value * 10 + Text.Decimal.digitValue digit
      if next < 0x80000000 then accumulateExponent next rest else .inr rest

def finiteNumber (policy : ReadingPolicy) (negative : Bool) (significand : Nat) (power : Int)
    (ahead : List Char) : Reading JsonNumber :=
  match Double.ofDecimal negative significand power with
  | some double => .ok (.float double, ahead)
  | none =>
      if policy.everyTextHasValue then .error ⟨.numberOutOfRange, ahead, 0⟩
      else .ok (.float (.infinite negative), ahead)

/-- An exponent after a significand. An exponent beyond 31 bits leaves zero of a
zero significand or of a negative exponent, and nothing finite otherwise. -/
def readExponent (policy : ReadingPolicy) (negative : Bool) (significand : Nat) (power : Int)
    (characters : List Char) : Reading JsonNumber :=
  let (down, digits) :=
    match characters with
    | '-' :: rest => (true, rest)
    | '+' :: rest => (false, rest)
    | rest => (false, rest)
  let (digits, ahead) := spanDigits digits
  if digits.isEmpty then malformedAt ahead
  else
    match accumulateExponent 0 digits with
    | .inl exponent =>
        finiteNumber policy negative significand
          (if down then power - exponent else power + exponent) ahead
    | .inr unread =>
        if significand = 0 || down then .ok (.float (.zero negative), ahead)
        else if policy.everyTextHasValue then
          .error ⟨.numberOutOfRange, unread ++ ahead, 0⟩
        else .ok (.float (.infinite negative), ahead)

/-- A number without a point and an exponent. It is an integer when 64 bits hold
it; minus zero is not. -/
def wholeNumber (policy : ReadingPolicy) (negative : Bool) (significand dropped : Nat)
    (ahead : List Char) : Reading JsonNumber :=
  if dropped = 0 then
    if !negative then .ok (.integer significand, ahead)
    else if 0 < significand && significand ≤ 0x8000000000000000 then .ok (.integer (-significand), ahead)
    else finiteNumber policy negative significand 0 ahead
  else finiteNumber policy negative significand dropped ahead

def readMagnitude (policy : ReadingPolicy) (negative : Bool) (characters : List Char) :
    Reading JsonNumber :=
  let (digits, ahead) := spanDigits characters
  if digits.isEmpty || (digits.head? == some '0' && digits.length > 1) then malformedAt ahead
  else
    let (significand, dropped) := accumulate 0 digits
    match ahead with
    | '.' :: rest =>
        let (decimals, ahead) := spanDigits rest
        if decimals.isEmpty then malformedAt ahead
        else
          let (significand, ignored) := accumulate significand decimals
          let power : Int := dropped - (decimals.length - ignored : Nat)
          match ahead with
          | 'e' :: rest => readExponent policy negative significand power rest
          | 'E' :: rest => readExponent policy negative significand power rest
          | rest => finiteNumber policy negative significand power rest
    | 'e' :: rest => readExponent policy negative significand dropped rest
    | 'E' :: rest => readExponent policy negative significand dropped rest
    | rest => wholeNumber policy negative significand dropped rest

def readNumber (policy : ReadingPolicy) : List Char → Reading JsonNumber
  | '-' :: rest => readMagnitude policy true rest
  | characters => readMagnitude policy false characters

/-! ## Strings

A string is first cut into pieces, each a character or a 16-bit code unit written
as an escape; code units are then joined to characters. -/

inductive Piece where
  | plain (character : Char)
  | escaped (character : Char)
  | unit (value : Nat) (ahead : List Char)

def hexUnit (first second third fourth : Char) : Option Nat := do
  let first ← Text.hexValue first
  let second ← Text.hexValue second
  let third ← Text.hexValue third
  let fourth ← Text.hexValue fourth
  return ((first * 16 + second) * 16 + third) * 16 + fourth

def simpleEscape : Char → Option Char
  | '\x22' => some '\x22'
  | '\\' => some '\\'
  | '/' => some '/'
  | 'b' => some '\x08'
  | 'f' => some '\x0c'
  | 'n' => some '\x0a'
  | 'r' => some '\x0d'
  | 't' => some '\x09'
  | _ => none

def pieces : List Char → Reading (List Piece)
  | [] => malformedAt []
  | '\x22' :: rest => .ok ([], rest)
  | '\\' :: 'u' :: first :: second :: third :: fourth :: rest =>
      match hexUnit first second third fourth with
      | none => malformedAt rest
      | some value => (pieces rest).map fun (more, ahead) => (.unit value rest :: more, ahead)
  | '\\' :: letter :: rest =>
      match simpleEscape letter with
      | none => malformedAt rest
      | some character => (pieces rest).map fun (more, ahead) => (.escaped character :: more, ahead)
  | character :: rest =>
      if character = '\\' || character.toNat < 0x20 then malformedAt rest
      else (pieces rest).map fun (more, ahead) => (.plain character :: more, ahead)

def isHighSurrogate (value : Nat) : Bool := 0xd800 ≤ value && value ≤ 0xdbff

def isLowSurrogate (value : Nat) : Bool := 0xdc00 ≤ value && value ≤ 0xdfff

def replacement : Char := '\ufffd'

/-- Join pieces to characters. A high surrogate takes the low one after it. -/
def joinPieces (policy : ReadingPolicy) : List Piece → Except Stop (List Char)
  | [] => .ok []
  | .plain character :: rest => (joinPieces policy rest).map (character :: ·)
  | .escaped character :: rest => (joinPieces policy rest).map (character :: ·)
  | .unit high ahead :: rest =>
      if isHighSurrogate high then
        match rest with
        | .unit low after :: more =>
            if isLowSurrogate low then
              (joinPieces policy more).map
                (Char.ofNat ((high - 0xd800) * 0x400 + (low - 0xdc00) + 0x10000) :: ·)
            else if policy.everyTextHasValue then .error ⟨.unpairedSurrogate, after, 0⟩
            else (joinPieces policy (.unit low after :: more)).map (replacement :: ·)
        | .escaped character :: more =>
            if policy.everyTextHasValue then .error ⟨.unfinishedSurrogate, ahead, 2⟩
            else (joinPieces policy (.escaped character :: more)).map (replacement :: ·)
        | others =>
            if policy.everyTextHasValue then .error ⟨.unfinishedSurrogate, ahead, 1⟩
            else (joinPieces policy others).map (replacement :: ·)
      else if isLowSurrogate high then
        if policy.everyTextHasValue then .error ⟨.unpairedSurrogate, ahead, 0⟩
        else (joinPieces policy rest).map (replacement :: ·)
      else (joinPieces policy rest).map (Char.ofNat high :: ·)

def readString (policy : ReadingPolicy) (characters : List Char) : Reading String :=
  match pieces characters with
  | .error stop => .error stop
  | .ok (found, ahead) =>
      (joinPieces policy found).map fun text => (String.ofList text, ahead)

/-! ## Values

`fuel` bounds the number of values and separators still to come; the number of
characters of the text is always enough. `room` is the number of containers that
may still be opened inside one another. -/

mutual
def readValue (policy : ReadingPolicy) : Nat → Nat → List Char → Reading Json
  | 0, _, characters => malformedAt characters
  | fuel + 1, room, characters =>
      match skipLayout characters with
      | 'n' :: 'u' :: 'l' :: 'l' :: rest => .ok (.null, rest)
      | 't' :: 'r' :: 'u' :: 'e' :: rest => .ok (.bool true, rest)
      | 'f' :: 'a' :: 'l' :: 's' :: 'e' :: rest => .ok (.bool false, rest)
      | '\x22' :: rest => (readString policy rest).map fun (text, ahead) => (.string text, ahead)
      | '[' :: rest =>
          match room with
          | 0 => .error ⟨.nestedTooDeep, rest, 0⟩
          | room + 1 =>
              match skipLayout rest with
              | ']' :: ahead => .ok (.array [], ahead)
              | inside =>
                  (readItems policy fuel room inside).map fun (items, ahead) =>
                    (.array items, ahead)
      | '\x7b' :: rest =>
          match room with
          | 0 => .error ⟨.nestedTooDeep, rest, 0⟩
          | room + 1 =>
              match skipLayout rest with
              | '\x7d' :: ahead => .ok (.object [], ahead)
              | inside =>
                  (readFields policy fuel room [] inside).map fun (fields, ahead) =>
                    (.object fields, ahead)
      | others => (readNumber policy others).map fun (value, ahead) => (.number value, ahead)

def readItems (policy : ReadingPolicy) : Nat → Nat → List Char → Reading (List Json)
  | 0, _, characters => malformedAt characters
  | fuel + 1, room, characters =>
      match readValue policy fuel room characters with
      | .error stop => .error stop
      | .ok (item, rest) =>
          match skipLayout rest with
          | ',' :: more =>
              (readItems policy fuel room more).map fun (items, ahead) => (item :: items, ahead)
          | ']' :: ahead => .ok ([item], ahead)
          | others => malformedAt others

/-- One or more fields up to the closing brace. A name that occurs again keeps its
first place and takes the last value. -/
def readFields (policy : ReadingPolicy) : Nat → Nat → Fields → List Char → Reading Fields
  | 0, _, _, characters => malformedAt characters
  | fuel + 1, room, known, characters =>
      match skipLayout characters with
      | '\x22' :: rest =>
          match readString policy rest with
          | .error stop => .error stop
          | .ok (name, rest) =>
              match skipLayout rest with
              | ':' :: rest =>
                  match readValue policy fuel room rest with
                  | .error stop => .error stop
                  | .ok (value, rest) =>
                      match skipLayout rest with
                      | ',' :: more =>
                          readFields policy fuel room (Fields.put name value known) more
                      | '\x7d' :: ahead => .ok (Fields.put name value known, ahead)
                      | others => malformedAt others
              | others => malformedAt others
      | others => malformedAt others
end

def readCharacters (policy : ReadingPolicy) (characters : List Char) : Except ReadError Json :=
  match readValue policy (characters.length + 1) policy.nesting characters with
  | .error stop => .error (stop.locate characters)
  | .ok (value, rest) =>
      match skipLayout rest with
      | [] => .ok value
      | others => .error (Stop.locate characters ⟨.unexpectedRest, others, 1⟩)

def read (policy : ReadingPolicy) (text : String) : Except ReadError Json :=
  readCharacters policy text.toList

/-- Whether a text is JSON at all. Where it has a character of zeros it is taken to end
there. -/
def isText (text : String) : Bool :=
  match readCharacters textPolicy (text.toList.takeWhile (· ≠ '\x00')) with
  | .ok _ => true
  | .error _ => false

end Json

end StoreMigration
