import TaskEndpoints.Number.Shortest
import TaskEndpoints.Text.Blank

/-!
# Decimal text of numbers

Integers are written in full. A double is written with the shortest digits that read back, with a
point for magnitudes from `10 ^ -4` to below `10 ^ 16` and with an exponent otherwise. Reading goes the
other way and rounds to the nearest double.
-/

namespace TaskEndpoints

/-- The words for the doubles that have no digits. -/
structure DoubleWords where
  infinity : String
  /-- The word for a value that is no number. -/
  undefined : String

/-- The decimal digits of a natural number. -/
def decimalDigits (n : Nat) : List Char := Nat.toDigits 10 n

/-- The text of an integer. -/
def intText (n : Int) : String :=
  if n < 0 then String.ofList ('-' :: decimalDigits n.natAbs)
  else String.ofList (decimalDigits n.natAbs)

/-- Pad on the left with zeros to the given width. -/
def padZeros (width : Nat) (digits : List Char) : List Char :=
  List.replicate (width - digits.length) '0' ++ digits

/-- Write digits with a point, where `point` of them stand before it. -/
def withPoint (digits : List Char) (point : Int) : List Char :=
  if point ≤ 0 then '0' :: '.' :: List.replicate (-point).toNat '0' ++ digits
  else if digits.length ≤ point.toNat then
    digits ++ List.replicate (point.toNat - digits.length) '0' ++ ['.', '0']
  else digits.take point.toNat ++ '.' :: digits.drop point.toNat

/-- Write digits with an exponent of a sign and at least two digits. -/
def withExponent (digits : List Char) (exponent : Int) : List Char :=
  let mantissa := match digits with
    | [] => []
    | [d] => [d]
    | d :: rest => d :: '.' :: rest
  let sign := if exponent < 0 then '-' else '+'
  mantissa ++ 'e' :: sign :: padZeros 2 (decimalDigits exponent.natAbs)

/-- The text of a positive decimal, with a point or an exponent as its magnitude asks; zeros at the
end of its digits carry nothing and are dropped. -/
def Shortest.Decimal.text (d : Shortest.Decimal) : List Char :=
  let digits := decimalDigits d.digits
  let leading := d.exponent + digits.length - 1
  let significant := Text.dropEndWhile (· == '0') digits
  if -4 ≤ leading && leading < 16 then withPoint significant (leading + 1)
  else withExponent significant leading

/-- The text of a double. -/
def doubleText (words : DoubleWords) (x : Float) : String :=
  let f := DoubleFields.ofFloat x
  let body :=
    if f.isFinite then
      if f.significand = 0 then ['0', '.', '0'] else (Shortest.ofFields f).text
    else if f.fraction = 0 then words.infinity.toList else words.undefined.toList
  let signed := f.negative && (f.isFinite || f.fraction = 0)
  String.ofList (if signed then '-' :: body else body)

/-- The double nearest to `digits * 10 ^ exponent`. Magnitudes far outside the range of doubles are
decided by their digit count alone. -/
def nearestDouble (digits : Nat) (exponent : Int) : Float :=
  let magnitude := exponent + Shortest.digitCount digits
  if digits = 0 || magnitude < -400 then 0
  else if 400 < magnitude then 1 / 0
  else Float.ofScientific digits (exponent < 0) exponent.natAbs

end TaskEndpoints
