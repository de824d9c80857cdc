import TaskEngine.Number.Binary64

/-!
# Shortest decimal digits

The digits written for a double are the fewest that read back as the same double, and of those
the nearest to its exact value. For a growing number of digits the two neighbours of the value on
the decimal grid are tried; the first grid with a hit wins. Seventeen digits always suffice, and
the exact expansion stands behind them.
-/

namespace TaskEngine.Number

/-- The number `digits * 10 ^ scale`. -/
structure Decimal where
  /-- The significant digits, as one natural number. -/
  digits : Nat
  /-- The power of ten that the last digit counts. -/
  scale : Int
  deriving DecidableEq, Repr

namespace Decimal

/-- Whether the decimal is nearest to this magnitude and no other. -/
def readsBackAs (d : Decimal) (x : Binary64) : Bool :=
  (Binary64.ofDecimal? false d.digits d.scale).map (·.rank) == some x.rank

/-- Move zeros at the end of the digits into the scale, at most `fuel` of them. -/
def stripZeros : Nat → Decimal → Decimal
  | 0, d => d
  | fuel + 1, d =>
    if d.digits ≠ 0 ∧ d.digits % 10 = 0 then stripZeros fuel ⟨d.digits / 10, d.scale + 1⟩ else d

end Decimal

namespace Binary64

/-- The number of decimal digits before the point, negative when zeros follow the point:
the `e` with `10 ^ (e - 1) ≤ x < 10 ^ e`. -/
def decimalExponent (x : Binary64) : Int :=
  let (num, den) := x.ratio
  if den ≤ num then (Nat.toDigits 10 (num / den)).length
  else
    -- `den / num` has `k` digits, so `x` lies between `10 ^ -k` and `10 ^ (1 - k)`.
    let k := (Nat.toDigits 10 ((den - 1) / num)).length
    1 - (k : Int)

/-- The neighbours of the value on the grid of decimals with `count` digits, with twice the
distance of the lower one and the width of the grid, both over one denominator. -/
def gridNeighbours (x : Binary64) (count : Nat) : Decimal × Decimal × Nat × Nat :=
  let (num, den) := x.ratio
  let scale := x.decimalExponent - count
  let (n, d) :=
    if 0 ≤ scale then (num, den * Nat.pow 10 scale.toNat)
    else (num * Nat.pow 10 (-scale).toNat, den)
  let low := n / d
  (⟨low, scale⟩, ⟨low + 1, scale⟩, 2 * (n % d), d)

/-- The nearer of the two neighbours that read back, if any does; of equally near ones the even. -/
def withDigits? (x : Binary64) (count : Nat) : Option Decimal :=
  let (low, high, twice, width) := x.gridNeighbours count
  match low.readsBackAs x, high.readsBackAs x with
  | false, false => none
  | true, false => some low
  | false, true => some high
  | true, true =>
    if twice < width then some low
    else if width < twice then some high
    else if low.digits % 2 = 0 then some low else some high

/-- The magnitude written out in full. -/
def exactDecimal (x : Binary64) : Decimal :=
  if 0 ≤ x.exponent then ⟨x.significand * Nat.pow 2 x.exponent.toNat, 0⟩
  else ⟨x.significand * Nat.pow 5 (-x.exponent).toNat, x.exponent⟩

/-- The digits of the magnitude: the fewest that read back, the nearest of those. -/
def shortest (x : Binary64) : Decimal :=
  if x.rank = 0 then ⟨0, 0⟩
  else
    let found := (List.range 17).findSome? fun count => x.withDigits? (count + 1)
    (found.getD x.exactDecimal).stripZeros 400

end Binary64

/-- How a double is laid out around its shortest digits. -/
structure FloatLayout where
  /-- The most digits before the point in positional form, or no limit. -/
  positionalDigits : Option Nat
  /-- The most zeros after the point in positional form, or no limit. -/
  leadingZeros : Option Nat
  /-- Whether a whole number in positional form ends in a point and a zero. -/
  keepsPoint : Bool

namespace FloatLayout

/-- Lay out digits whose value is `0.d₁d₂… * 10 ^ point`. -/
def layOut (layout : FloatLayout) (digits : List Char) (point : Int) : List Char :=
  if 0 < point ∧ layout.positionalDigits.all (point ≤ ·) then
    let whole := point.toNat
    if digits.length ≤ whole then
      digits ++ List.replicate (whole - digits.length) '0' ++
        (if layout.keepsPoint then ['.', '0'] else [])
    else digits.take whole ++ '.' :: digits.drop whole
  else if point ≤ 0 ∧ layout.leadingZeros.all (-point ≤ ·) then
    '0' :: '.' :: List.replicate (-point).toNat '0' ++ digits
  else
    let tail := digits.drop 1
    let exponent := point - 1
    digits.take 1 ++ (if tail.isEmpty then [] else '.' :: tail) ++ 'e' ::
      (if exponent < 0 then ['-'] else []) ++ Nat.toDigits 10 exponent.natAbs

/-- The text of a double. -/
def render (layout : FloatLayout) (x : Binary64) : String :=
  let sign := if x.negative then ['-'] else []
  let body :=
    if x.rank = 0 then '0' :: (if layout.keepsPoint then ['.', '0'] else [])
    else
      let shortest := x.shortest
      let digits := Nat.toDigits 10 shortest.digits
      layout.layOut digits (digits.length + shortest.scale)
  String.ofList (sign ++ body)

end FloatLayout

end TaskEngine.Number
