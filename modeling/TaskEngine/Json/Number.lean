import TaskEngine.Number.Shortest

/-!
# Numbers in JSON text

A number that is written as an integer and fits 64 bits, signed or unsigned, is exact; every other
number is a double. The double of a literal is not always the nearest one: its leading digits that
fit 64 unsigned bits are rounded first, and the result is then multiplied or divided by a rounded
power of ten. A literal beyond the largest double is refused.
-/

namespace TaskEngine

open Number

/-- A JSON number. -/
inductive JsonNumber where
  /-- An integer literal within 64 bits. -/
  | int (value : Int)
  /-- Any other literal. -/
  | float (value : Binary64)
  deriving DecidableEq

namespace JsonNumber

/-- The largest unsigned 64-bit integer. -/
def maxUnsigned : Nat := 0xFFFFFFFFFFFFFFFF

/-- The decimal value of a digit character. -/
def digitValue (c : Char) : Nat := c.toNat - '0'.toNat

/-- The parts of a number literal, as written. -/
structure Literal where
  /-- Whether a minus sign leads. -/
  negative : Bool
  /-- The digits before the point. -/
  whole : List Char
  /-- The digits after the point; empty when there is no point. -/
  fraction : List Char
  /-- The sign (true for minus) and digits of the exponent. -/
  exponent : Option (Bool × List Char)

/-- Append digits while the significand fits 64 bits; the rest is returned. -/
def takeSignificand (significand : Nat) : List Char → Nat × List Char
  | [] => (significand, [])
  | c :: rest =>
    let next := significand * 10 + digitValue c
    if next ≤ maxUnsigned then takeSignificand next rest else (significand, c :: rest)

/-- `10 ^ e` as a double, for `e ≤ 308`. -/
def powerOfTen (e : Nat) : Binary64 := (Binary64.ofDecimal? false 1 e).getD .zero

/-- Divide by a power of ten, in steps of `10 ^ 308`. Two steps bring every 64-bit significand
down to zero, where the division stops. -/
def scaleDown : Nat → Binary64 → Nat → Binary64
  | 0, x, _ => x
  | fuel + 1, x, e =>
    if e ≤ 308 then (x.div? (powerOfTen e)).getD .zero
    else if x.rank = 0 then x
    else scaleDown fuel ((x.div? (powerOfTen 308)).getD .zero) (e - 308)

/-- Multiply by a power of ten; nothing when the result exceeds the largest double. -/
def scale? (x : Binary64) (e : Int) : Option Binary64 :=
  if e < 0 then some (scaleDown 4 x e.natAbs)
  else if e ≤ 308 then x.mul? (powerOfTen e.toNat)
  else if x.rank = 0 then some x else none

/-- The largest exponent that is still counted; beyond it only its sign matters. -/
def maxExponent : Nat := 0x7FFFFFFF

/-- The double of a literal that is no 64-bit integer. -/
def Literal.float? (l : Literal) : Option Binary64 :=
  let (significand, droppedWhole) := takeSignificand 0 l.whole
  let (significand, droppedFraction) := takeSignificand significand l.fraction
  let shift : Int := droppedWhole.length - (l.fraction.length - droppedFraction.length : Nat)
  let signed : Option Binary64 → Option Binary64 := fun x =>
    x.map fun x => { x with negative := l.negative }
  match l.exponent with
  | none => signed ((Binary64.ofInt? significand).bind (scale? · shift))
  | some (minus, digits) =>
    let e := Nat.ofDigitChars 10 digits 0
    if maxExponent < e then
      if significand ≠ 0 ∧ minus = false then none else signed (some .zero)
    else
      signed ((Binary64.ofInt? significand).bind (scale? · (if minus then shift - e else shift + e)))

/-- The value of a literal. The text `-0` is the double, since integers have one zero. -/
def Literal.value? (l : Literal) : Option JsonNumber :=
  let magnitude := Nat.ofDigitChars 10 l.whole 0
  if l.fraction.isEmpty && l.exponent.isNone then
    if l.negative then
      if 0 < magnitude ∧ magnitude ≤ 0x8000000000000000 then some (.int (-(magnitude : Int)))
      else l.float?.map .float
    else if magnitude ≤ maxUnsigned then some (.int magnitude)
    else l.float?.map .float
  else l.float?.map .float

/-- The value as a signed numerator over a positive denominator. -/
def ratio : JsonNumber → Int × Nat
  | .int n => (n, 1)
  | .float x => x.signedRatio

/-- Numbers are ordered by value, integers and doubles alike. -/
def compare (a b : JsonNumber) : Ordering :=
  let (p, q) := a.ratio
  let (r, s) := b.ratio
  Ord.compare (p * s) (r * q)

/-- Whether two numbers have the same value: `1` equals `1.0`. -/
def sameValue (a b : JsonNumber) : Bool := a.compare b == .eq

/-- Whether the value is a whole number: `5.0` is one. -/
def isWhole : JsonNumber → Bool
  | .int _ => true
  | .float x => x.isWhole

/-- Numbers in JSON output: positional up to sixteen digits before the point and down to four
zeros after it, always with a point or an exponent. -/
def outputLayout : FloatLayout := ⟨some 16, some 4, true⟩

/-- Numbers in running text: always positional, and whole ones without a point. -/
def plainLayout : FloatLayout := ⟨none, none, false⟩

/-- The JSON text of a number. -/
def render : JsonNumber → String
  | .int n => toString n
  | .float x => outputLayout.render x

end JsonNumber

end TaskEngine
