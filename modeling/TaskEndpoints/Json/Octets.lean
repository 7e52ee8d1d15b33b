import TaskEndpoints.Json.Reader
import TaskEndpoints.Json.Writer
import TaskEndpoints.Text.Encoding

/-!
# JSON text in octets

A JSON text may arrive in any of the Unicode encodings. The encoding is told from a byte order mark or
from the zero octets among the first four, for a JSON text starts with an ASCII character.

## Implementation notes

An encoded surrogate has no character. It is handed to the reader as the escape that denotes it, which
means the same inside a text and is as little a value outside.
-/

namespace TaskEndpoints.Json

/-- Why octets are no JSON document. -/
inductive OctetsError where
  | decode (e : Text.DecodeError)
  | read (e : ReadError)
deriving DecidableEq, Repr

/-- The wording of each cause. -/
def OctetsError.message : OctetsError → String
  | .decode e => e.message
  | .read e => e.message

/-- The byte order marks. The mark of one encoding may start with the mark of another, which then comes
later. -/
def marks : List (List UInt8 × Text.Encoding) := [
  ([0x00, 0x00, 0xfe, 0xff], .utf32be),
  ([0xff, 0xfe, 0x00, 0x00], .utf32le),
  ([0xfe, 0xff], .utf16be),
  ([0xff, 0xfe], .utf16le),
  ([0xef, 0xbb, 0xbf], .utf8)]

/-- Tell the encoding of octets without a byte order mark. -/
def detectUnmarked : List UInt8 → Text.Encoding
  | a :: b :: c :: d :: _ =>
    if a == 0 then (if b == 0 then .utf32be else .utf16be)
    else if b == 0 then (if c == 0 && d == 0 then .utf32le else .utf16le)
    else .utf8
  | [a, b] => if a == 0 then .utf16be else if b == 0 then .utf16le else .utf8
  | _ => .utf8

/-- Tell the encoding and the length of a byte order mark. -/
def detect (octets : List UInt8) : Text.Encoding × Nat :=
  match marks.find? (·.1.isPrefixOf octets) with
  | some (mark, encoding) => (encoding, mark.length)
  | none => (detectUnmarked octets, 0)

/-- The characters that stand for a code point in a JSON text. -/
def spell (point : Nat) : List Char :=
  if point.isValidChar then [Char.ofNat point] else unitEscape point

/-- Decode a JSON text. Positions in faults count a byte order mark except in UTF-8. -/
def decodeOctets (octets : List UInt8) : Except Text.DecodeError (List Char) :=
  let (encoding, mark) := detect octets
  let start := if encoding = .utf8 then 0 else mark
  (Text.decodeWith encoding encoding.step start 0 (octets.drop mark)).map (·.flatMap spell)

/-- Read a document from octets. -/
def readOctets (octets : List UInt8) : Except OctetsError Value := do
  let text ← (decodeOctets octets).mapError .decode
  (readBare text).mapError fun fault => .read (fault.locate text)

end TaskEndpoints.Json
