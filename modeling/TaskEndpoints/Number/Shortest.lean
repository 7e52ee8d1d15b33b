import TaskEndpoints.Number.Dyadic

/-!
# The shortest decimal that reads back

Reading rounds a decimal to the nearest double, so every double owns an interval of decimals. Among
the decimals of the interval this module finds one with the fewest digits, and of those the nearest to
the double itself.

## Implementation notes

All quantities are multiples of a quarter of the unit in the last place, held as natural numbers over
one common denominator. On the grid of multiples of `10 ^ k` it suffices to test the two neighbours of
the double: if any point of the grid lies in the interval, one of these does.
-/

namespace TaskEndpoints.Shortest

/-- A decimal `digits * 10 ^ exponent`. -/
structure Decimal where
  digits : Nat
  exponent : Int
deriving DecidableEq, Repr

/-- The interval that reads back as one positive double: its ends and the double itself as quarters
of the last unit, which is `2 ^ scale`. -/
structure Interval where
  low : Nat
  centre : Nat
  high : Nat
  /-- The power of two of the last unit. -/
  scale : Int
  /-- Whether the ends themselves read back. -/
  closed : Bool

/-- The interval of a positive finite double. Below a power of two the neighbours are closer. -/
def Interval.ofFields (f : DoubleFields) : Interval :=
  let m := f.significand
  let low := if f.fraction = 0 && 1 < f.exponent then 4 * m - 1 else 4 * m - 2
  ⟨low, 4 * m, 4 * m + 2, f.scale, m % 2 == 0⟩

/-- The number of decimal digits of a natural number; zero has one. -/
def digitCount (n : Nat) : Nat := (Nat.toDigits 10 n).length

/-- The exponent of the leading decimal digit of the positive fraction `num / den`. -/
def leadingExponent (num den : Nat) : Int :=
  if den ≤ num then (digitCount (num / den) : Int) - 1
  else -(digitCount ((den + num - 1) / num - 1) : Int)

/-- Decide whether the point `point * 10 ^ k` lies in the interval, where `unit` is that power of ten
and `scaled` turns a quarter into the common denominator. -/
def Interval.holds (i : Interval) (unit scaled point : Nat) : Bool :=
  if i.closed then i.low * scaled ≤ point * unit && point * unit ≤ i.high * scaled
  else i.low * scaled < point * unit && point * unit < i.high * scaled

/-- The neighbour of the double on the grid of multiples of `10 ^ k` that reads back, if any; of two
the nearer, and on a tie the even one. -/
def Interval.onGrid? (i : Interval) (k : Int) : Option Decimal :=
  let unit := Nat.pow 2 (2 - i.scale).toNat * Nat.pow 10 k.toNat
  let scaled := Nat.pow 2 (i.scale - 2).toNat * Nat.pow 10 (-k).toNat
  let below := i.centre * scaled / unit
  let nearer := i.centre * scaled - below * unit
  let farther := (below + 1) * unit - i.centre * scaled
  match i.holds unit scaled below, i.holds unit scaled (below + 1) with
  | true, true =>
    if nearer < farther || (nearer = farther && below % 2 = 0) then some ⟨below, k⟩
    else some ⟨below + 1, k⟩
  | true, false => some ⟨below, k⟩
  | false, true => some ⟨below + 1, k⟩
  | false, false => none

/-- The first hit on the grids with `count`, `count - 1`, … further digits to try. -/
def Interval.search (i : Interval) (k : Int) : Nat → Decimal
  | 0 => ⟨i.centre, i.scale - 2⟩
  | count + 1 => match i.onGrid? k with
    | some d => d
    | none => i.search (k - 1) count

/-- The shortest decimal of a positive finite double; seventeen digits always suffice. -/
def ofFields (f : DoubleFields) : Decimal :=
  let i := Interval.ofFields f
  let num := i.centre * Nat.pow 2 (i.scale - 2).toNat
  let den := Nat.pow 2 (2 - i.scale).toNat
  i.search (leadingExponent num den) 18

end TaskEndpoints.Shortest
