/-! Binary floating-point numbers of 64 bits: the shortest decimal text that
names one, and the reading of a decimal as the number it comes to when a
64-bit significand is scaled by powers of ten. -/

namespace StoreMigration

/-- A double, held as its 64 bits: sign, eleven bits of exponent and fifty-two
bits of fraction. -/
structure Double where
  bits : UInt64
  deriving DecidableEq, Repr

namespace Double

/-! ## The number behind the bits -/

def isNegative (double : Double) : Bool :=
  double.bits.toNat / Nat.pow 2 63 == 1

def fraction (double : Double) : Nat :=
  double.bits.toNat % Nat.pow 2 52

def biasedExponent (double : Double) : Nat :=
  double.bits.toNat / Nat.pow 2 52 % Nat.pow 2 11

/-- The magnitude is `mantissa * 2 ^ exponent`. -/
def mantissa (double : Double) : Nat :=
  if double.biasedExponent = 0 then double.fraction else double.fraction + Nat.pow 2 52

def exponent (double : Double) : Int :=
  if double.biasedExponent = 0 then -1074 else double.biasedExponent - 1075

/-! ## Decimals in the rounding interval

The magnitude, the interval of numbers that round to it, and the points of a
decimal grid are compared as natural numbers over one common denominator. -/

/-- A positive magnitude and the interval that rounds to it, all over the same
denominator. The ends belong to the interval when the mantissa is even. -/
structure Interval where
  low : Nat
  middle : Nat
  high : Nat
  denominator : Nat
  closed : Bool

/-- Below a power of two the doubles lie twice as close, so there the lower half
of the interval is half as wide. -/
def interval (double : Double) : Interval :=
  let quarters := 4 * double.mantissa
  let below := if double.fraction = 0 && double.biasedExponent > 1 then 1 else 2
  let scale := Nat.pow 2 (double.exponent - 2).toNat
  { low := (quarters - below) * scale
    middle := quarters * scale
    high := (quarters + 2) * scale
    denominator := Nat.pow 2 (2 - double.exponent).toNat
    closed := double.mantissa % 2 = 0 }

def Interval.contains (range : Interval) (multiple : Nat) (power : Int) : Bool :=
  let point := multiple * Nat.pow 10 power.toNat * range.denominator
  let stretch := Nat.pow 10 (-power).toNat
  if range.closed then range.low * stretch ≤ point && point ≤ range.high * stretch
  else range.low * stretch < point && point < range.high * stretch

def Interval.leadingPlace (range : Interval) : Nat → Nat → Nat
  | 0, place => place
  | fuel + 1, place =>
      if range.denominator ≤ range.middle * Nat.pow 10 place then place
      else range.leadingPlace fuel (place + 1)

def Interval.magnitude (range : Interval) : Int :=
  if range.denominator ≤ range.middle then
    (Nat.toDigits 10 (range.middle / range.denominator)).length - 1
  else -(range.leadingPlace 400 0 : Int)

/-- The point of the grid `10 ^ power` nearest to the magnitude among its two
neighbours that lie in the interval; a tie goes to the even multiple. -/
def Interval.nearest? (range : Interval) (power : Int) : Option Nat :=
  let value := range.middle * Nat.pow 10 (-power).toNat
  let unit := range.denominator * Nat.pow 10 power.toNat
  let below := value / unit
  let remainder := value % unit
  match range.contains below power && below != 0, range.contains (below + 1) power with
  | true, true =>
      if 2 * remainder < unit || (2 * remainder == unit && below % 2 == 0) then some below
      else some (below + 1)
  | true, false => some below
  | false, true => some (below + 1)
  | false, false => none

def dropZeros : Nat → Nat → Int → Nat × Int
  | 0, multiple, power => (multiple, power)
  | fuel + 1, multiple, power =>
      if multiple % 10 = 0 then dropZeros fuel (multiple / 10) (power + 1) else (multiple, power)

def Interval.search (range : Interval) (magnitude : Int) : Nat → Nat → Nat × Int
  | 0, digits =>
      let power := magnitude - digits
      ((range.nearest? power).getD 0, power)
  | fuel + 1, digits =>
      let power := magnitude - digits
      match range.nearest? power with
      | some multiple => dropZeros 20 multiple power
      | none => range.search magnitude fuel (digits + 1)

/-- The decimal of fewest digits that rounds to the magnitude, as a multiple of a
power of ten. Seventeen digits always suffice. -/
def shortest (double : Double) : Nat × Int :=
  let range := double.interval
  range.search range.magnitude 16 0

/-! ## Text -/

/-- Where positional text ends and text with an exponent begins: the powers of
ten of the first digit that are still written positionally. -/
structure TextStyle where
  leastPositional : Int
  greatestPositional : Int

/-- Sixteen digits before the point and five places after it are positional. -/
def jsonStyle : TextStyle := ⟨-5, 15⟩

def positional (digits : List Char) (power lead : Int) : List Char :=
  if 0 ≤ power then digits ++ List.replicate power.toNat '0' ++ ['.', '0']
  else if 0 ≤ lead then
    digits.take (lead + 1).toNat ++ ['.'] ++ digits.drop (lead + 1).toNat
  else ['0', '.'] ++ List.replicate (-lead - 1).toNat '0' ++ digits

def withExponent (digits : List Char) (lead : Int) : List Char :=
  let mantissa :=
    match digits with
    | [] => []
    | [digit] => [digit]
    | digit :: more => digit :: '.' :: more
  mantissa ++ ['e', if lead < 0 then '-' else '+'] ++ Nat.toDigits 10 lead.natAbs

/-- The text of a double: always with a point or an exponent, so that it is never
taken for an integer. -/
def characters (style : TextStyle) (double : Double) : List Char :=
  let sign := if double.isNegative then ['-'] else []
  if double.mantissa = 0 then sign ++ ['0', '.', '0']
  else
    let (multiple, power) := double.shortest
    let digits := Nat.toDigits 10 multiple
    let lead := power + digits.length - 1
    if style.leastPositional ≤ lead && lead ≤ style.greatestPositional then
      sign ++ positional digits power lead
    else sign ++ withExponent digits lead

/-! ## Reading -/

/-- Scale a magnitude by a power of ten, one exact power at a time; `none` when the
magnitude leaves the range. -/
def scale (magnitude : Float) (power : Int) : Option Float :=
  if power.natAbs ≤ 308 then
    let step := Float.ofScientific 1 false power.natAbs
    if 0 ≤ power then
      let scaled := magnitude * step
      if scaled.isInf then none else some scaled
    else some (magnitude / step)
  else if magnitude == 0 then some magnitude
  else if 0 ≤ power then none
  else scale (magnitude / Float.ofScientific 1 false 308) (power + 308)
termination_by power.natAbs

/-- The double that a significand of at most 64 bits comes to when it is rounded
and then scaled; `none` when the result is not finite. -/
def ofDecimal (negative : Bool) (significand : Nat) (power : Int) : Option Double :=
  (scale significand.toUInt64.toFloat power).map fun magnitude =>
    ⟨(if negative then -magnitude else magnitude).toBits⟩

def infinite (negative : Bool) : Double :=
  ⟨if negative then 0xfff0000000000000 else 0x7ff0000000000000⟩

def zero (negative : Bool) : Double :=
  ⟨if negative then 0x8000000000000000 else 0⟩

end Double

end StoreMigration
