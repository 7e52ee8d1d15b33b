import TaskEndpoints.Text.Blank
import TaskEndpoints.Text.Encoding

/-!
# Request targets

A target is a path and, after the first question mark, a query. Octets of the path are written as a
percent sign and two hexadecimal digits; a percent sign without them stands for itself. The decoded path
is read as UTF-8, and faults in it become replacement characters.
-/

namespace TaskEndpoints.Http

/-- The value of a hexadecimal digit, given as an octet. -/
def hexValue? (octet : UInt8) : Option UInt8 :=
  if 0x30 ≤ octet && octet ≤ 0x39 then some (octet - 0x30)
  else if 0x41 ≤ octet && octet ≤ 0x46 then some (octet - 0x41 + 10)
  else if 0x61 ≤ octet && octet ≤ 0x66 then some (octet - 0x61 + 10)
  else none

/-- Replace percent signs with two hexadecimal digits by the octets they stand for. -/
def percentDecode : List UInt8 → List UInt8
  | 0x25 :: a :: b :: rest =>
    match hexValue? a, hexValue? b with
    | some high, some low => (high * 16 + low) :: percentDecode rest
    | _, _ => 0x25 :: percentDecode (a :: b :: rest)
  | octet :: rest => octet :: percentDecode rest
  | [] => []

/-- Decide whether a character is a letter, a digit or one of four marks that are never escaped. -/
def isUnreserved (c : Char) : Bool := c.isAlphanum || "_.-~".toList.contains c

/-- The upper-case hexadecimal digit of a number below sixteen. -/
def upperHexDigit (n : Nat) : Char := (Nat.digitChar n).toUpper

/-- The escape of an octet. -/
def escapeOctet (octet : UInt8) : List Char :=
  ['%', upperHexDigit (octet.toNat / 16), upperHexDigit (octet.toNat % 16)]

/-- Escape all characters but the unreserved ones and the given ones. -/
def percentEncode (kept : List Char) (s : String) : String :=
  String.ofList <| s.toList.flatMap fun c =>
    if isUnreserved c || kept.contains c then [c]
    else (Text.encodeUtf8 (String.singleton c)).flatMap escapeOctet

/-- Characters that stay as they are in an escaped path. -/
def pathMarks : List Char := "!$&'()*+,/:;=@".toList

/-- Characters that stay as they are in an escaped query. -/
def queryMarks : List Char := "%!#$&'()*+,/:;=?@".toList

/-- The target of a request. -/
structure Target where
  path : String
  /-- The query as it was sent; the empty text means none. -/
  query : String
deriving DecidableEq, Repr

namespace Target

/-- The decoded form of a path. -/
def decodePath (raw : String) : String :=
  String.ofList (Text.decodeReplacing 0 (percentDecode (Text.encodeUtf8 raw)))

/-- Read a target. -/
def ofText (raw : String) : Target :=
  let cs := raw.toList
  ⟨decodePath (String.ofList (cs.takeWhile (· != '?'))),
    String.ofList ((cs.dropWhile (· != '?')).drop 1)⟩

/-- A query as it is sent back: unchanged if it is visible ASCII text. -/
def sentQuery (query : String) : String :=
  if query.toList.all fun c => c.toNat < 0x80 && !Text.isBlank c then query
  else percentEncode queryMarks query

/-- The address of a path on this host, with a query. -/
def address (path query : String) : String :=
  "http://localhost" ++ percentEncode pathMarks path
    ++ (if query.isEmpty then "" else "?" ++ sentQuery query)

end Target

end TaskEndpoints.Http
