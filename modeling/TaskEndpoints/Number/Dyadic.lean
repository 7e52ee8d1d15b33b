/-!
# Doubles as dyadic numbers

A finite double is an integer divided by a power of two. This module opens a double into that form and
compares such numbers without rounding, so that integers of any size and doubles share one order.

## Implementation notes

The sign of zero is kept apart from the numerator: it decides how a zero is written, never how it
compares.
-/

namespace TaskEndpoints

/-- The value of a double: `numerator / 2 ^ twos`, an infinity, or no number. -/
inductive Dyadic where
  /-- A finite value. -/
  | finite (numerator : Int) (twos : Nat)
  /-- The value above every other. -/
  | above
  /-- The value below every other. -/
  | below
  /-- The value that compares with nothing. -/
  | undefined
deriving DecidableEq, Repr

/-- The fields of a double. -/
structure DoubleFields where
  negative : Bool
  exponent : Nat
  fraction : Nat

/-- Split the bits of a double into its fields. -/
def DoubleFields.ofFloat (x : Float) : DoubleFields :=
  let bits := x.toBits.toNat
  ⟨bits / 0x8000000000000000 == 1, bits / 0x10000000000000 % 0x800, bits % 0x10000000000000⟩

/-- The largest exponent field belongs to the infinities and to the values that are no number. -/
def DoubleFields.isFinite (f : DoubleFields) : Bool := f.exponent != 2047

/-- The integer significand; the implicit leading bit is absent only below the normal range. -/
def DoubleFields.significand (f : DoubleFields) : Nat :=
  if f.exponent = 0 then f.fraction else f.fraction + 0x10000000000000

/-- The power of two that scales the significand. -/
def DoubleFields.scale (f : DoubleFields) : Int :=
  (if f.exponent = 0 then 1 else (f.exponent : Int)) - 1075

namespace Dyadic

/-- The value of an integer. -/
def ofInt (n : Int) : Dyadic := .finite n 0

/-- The value of a double. -/
def ofFloat (x : Float) : Dyadic :=
  let f := DoubleFields.ofFloat x
  let signed (n : Nat) : Int := if f.negative then -(n : Int) else n
  if f.isFinite then .finite (signed (f.significand * Nat.pow 2 f.scale.toNat)) (-f.scale).toNat
  else if f.fraction = 0 then (if f.negative then .below else .above)
  else .undefined

/-- The exact order; nothing is at most, or at least, an undefined value. -/
def le : Dyadic → Dyadic → Bool
  | .undefined, _ => false
  | _, .undefined => false
  | .below, _ => true
  | _, .above => true
  | .finite a i, .finite b j => a * Nat.pow 2 j ≤ b * Nat.pow 2 i
  | _, _ => false

/-- Two values are equal when each is at most the other. -/
def same (a b : Dyadic) : Bool := a.le b && b.le a

/-- The integer part, rounded toward zero. -/
def truncate? : Dyadic → Option Int
  | .finite a i => some (Int.tdiv a (Nat.pow 2 i))
  | _ => none

@[simp] theorem le_ofInt (a b : Int) : (ofInt a).le (ofInt b) = decide (a ≤ b) := by
  simp [ofInt, le]

@[simp] theorem truncate?_ofInt (n : Int) : (ofInt n).truncate? = some n := by
  simp [ofInt, truncate?]

end Dyadic

end TaskEndpoints
