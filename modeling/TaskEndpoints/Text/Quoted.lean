import TaskEndpoints.Text.Printable

/-!
# Quoted text

Messages show a value's text between quotes. The quote is `'` unless the text holds `'` and no `"`.
The quote itself, the backslash and every character that is not printable are escaped.

## Implementation notes

Text is taken as code points, so that unpaired surrogates, which no character stands for, have a
quoted form as well.
-/

namespace TaskEndpoints.Text

/-- The lower-case hexadecimal digits of a number, padded with zeros to a width. -/
def hexDigits (width n : Nat) : List Char :=
  let digits := Nat.toDigits 16 n
  List.replicate (width - digits.length) '0' ++ digits

/-- The escape of a code point by its number, in the shortest of the three widths. -/
def numericEscape (point : Nat) : List Char :=
  if point < 0x100 then '\\' :: 'x' :: hexDigits 2 point
  else if point < 0x10000 then '\\' :: 'u' :: hexDigits 4 point
  else '\\' :: 'U' :: hexDigits 8 point

/-- The quoted form of one code point. -/
def quotedPoint (quote : Char) (point : Nat) : List Char :=
  let c := Char.ofNat point
  if point = quote.toNat || c = '\\' then ['\\', c]
  else if point = 9 then ['\\', 't']
  else if point = 10 then ['\\', 'n']
  else if point = 13 then ['\\', 'r']
  else if point.isValidChar && isPrintable c then [c]
  else numericEscape point

/-- The quote for a text: double only where that avoids an escape. -/
def chooseQuote (points : List Nat) : Char :=
  if points.contains 39 && !points.contains 34 then '"' else '\''

/-- The quoted form of a sequence of code points. -/
def quotedPoints (points : List Nat) : String :=
  let quote := chooseQuote points
  String.ofList (quote :: points.flatMap (quotedPoint quote) ++ [quote])

/-- The quoted form of a text. -/
def quoted (s : String) : String :=
  quotedPoints (s.toList.map Char.toNat)

/-- The quoted form of one octet. -/
def quotedOctet (quote : Char) (octet : UInt8) : List Char :=
  let n := octet.toNat
  if n = quote.toNat || n = 92 then ['\\', Char.ofNat n]
  else if n = 9 then ['\\', 't']
  else if n = 10 then ['\\', 'n']
  else if n = 13 then ['\\', 'r']
  else if 32 ≤ n && n < 127 then [Char.ofNat n]
  else '\\' :: 'x' :: hexDigits 2 n

/-- The quoted form of a sequence of octets, marked by a leading `b`. -/
def quotedOctets (octets : List UInt8) : String :=
  let quote := chooseQuote (octets.map UInt8.toNat)
  String.ofList ('b' :: quote :: octets.flatMap (quotedOctet quote) ++ [quote])

end TaskEndpoints.Text
