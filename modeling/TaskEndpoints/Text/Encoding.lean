import TaskEndpoints.Number.Decimal
import TaskEndpoints.Text.Quoted

/-!
# Encodings of text

UTF-8, UTF-16 and UTF-32 as functions from octets to code points. A decoding step takes the octets of
one code point, or names the octets that no code point matches and the reason.

## Implementation notes

A step either consumes octets or reports a fault, so decoding ends with the octets. Two ways of going
on after a fault are offered: refusing the whole text, and putting a replacement character in the
place of the faulty octets. Encoded surrogates are faults unless they are asked for.
-/

namespace TaskEndpoints.Text

/-- An encoding of text. -/
inductive Encoding where
  | utf8
  | utf16le
  | utf16be
  | utf32le
  | utf32be
deriving DecidableEq, Repr

/-- The usual word for an encoding. -/
def Encoding.word : Encoding → String
  | .utf8 => "utf-8"
  | .utf16le => "utf-16-le"
  | .utf16be => "utf-16-be"
  | .utf32le => "utf-32-le"
  | .utf32be => "utf-32-be"

/-- Why some octets match no code point. -/
inductive OctetFault where
  | invalidStart
  /-- An octet does not continue the sequence. -/
  | invalidContinuation
  | unexpectedEnd
  | truncated
  | outOfRange
deriving DecidableEq, Repr

/-- The wording of each reason. -/
def OctetFault.message : OctetFault → String
  | .invalidStart => "invalid start byte"
  | .invalidContinuation => "invalid continuation byte"
  | .unexpectedEnd => "unexpected end of data"
  | .truncated => "truncated data"
  | .outOfRange => "code point not in range(0x110000)"

/-- Octets that could not be decoded. -/
structure DecodeError where
  encoding : Encoding
  /-- The position of the first faulty octet. -/
  start : Nat
  octet : UInt8
  size : Nat
  reason : OctetFault
deriving DecidableEq, Repr

/-- The wording of the cause. -/
def DecodeError.message (e : DecodeError) : String :=
  let place :=
    if e.size = 1 then
      "byte 0x" ++ String.ofList (hexDigits 2 e.octet.toNat) ++ " in position " ++ toString e.start
    else "bytes in position " ++ toString e.start ++ "-" ++ toString (e.start + e.size - 1)
  "'" ++ e.encoding.word ++ "' codec can't decode " ++ place ++ ": " ++ e.reason.message

/-- What a decoding step finds at the start of the octets. -/
inductive Step where
  | point (value size : Nat)
  /-- Octets that match no code point. -/
  | fault (size : Nat) (reason : OctetFault)
deriving DecidableEq, Repr

/-- Decide whether an octet continues a UTF-8 sequence. -/
def isContinuation (b : UInt8) : Bool := 0x80 ≤ b && b < 0xc0

/-- The six payload bits of a continuation octet. -/
def payload (b : UInt8) : Nat := b.toNat % 64

/-- Decide whether the second octet of a UTF-8 sequence fits its first: no longer form than needed, no
surrogate, nothing beyond U+10FFFF. -/
def fitsSecond (first second : UInt8) : Bool :=
  isContinuation second &&
    (first != 0xe0 || 0xa0 ≤ second) && (first != 0xed || second < 0xa0) &&
    (first != 0xf0 || 0x90 ≤ second) && (first != 0xf4 || second < 0x90)

/-- One step of UTF-8 behind its first octet. -/
def stepUtf8 (first : UInt8) (rest : List UInt8) : Step :=
  let n := first.toNat
  if n < 0x80 then .point n 1
  else if n < 0xc2 || 0xf4 < n then .fault 1 .invalidStart
  else match rest with
    | [] => .fault 1 .unexpectedEnd
    | second :: rest =>
      if !fitsSecond first second then .fault 1 .invalidContinuation
      else if n < 0xe0 then .point (n % 32 * 64 + payload second) 2
      else match rest with
        | [] => .fault 2 .unexpectedEnd
        | third :: rest =>
          if !isContinuation third then .fault 2 .invalidContinuation
          else if n < 0xf0 then .point ((n % 16 * 64 + payload second) * 64 + payload third) 3
          else match rest with
            | [] => .fault 3 .unexpectedEnd
            | fourth :: _ =>
              if !isContinuation fourth then .fault 3 .invalidContinuation
              else .point (((n % 8 * 64 + payload second) * 64 + payload third) * 64
                + payload fourth) 4

/-- One step of UTF-8 in which an encoded surrogate counts as a code point. -/
def stepUtf8Surrogates (first : UInt8) (rest : List UInt8) : Step :=
  match rest with
  | second :: third :: _ =>
    if first == 0xed && 0xa0 ≤ second && isContinuation second && isContinuation third then
      .point ((13 * 64 + payload second) * 64 + payload third) 3
    else stepUtf8 first rest
  | _ => stepUtf8 first rest

/-- The number of two octets. -/
def unit16 (bigEndian : Bool) (a b : UInt8) : Nat :=
  if bigEndian then a.toNat * 256 + b.toNat else b.toNat * 256 + a.toNat

/-- One step of UTF-16; an unpaired surrogate counts as a code point. -/
def stepUtf16 (bigEndian : Bool) (first : UInt8) (rest : List UInt8) : Step :=
  match rest with
  | [] => .fault 1 .truncated
  | second :: rest =>
    let high := unit16 bigEndian first second
    match rest with
    | third :: fourth :: _ =>
      let low := unit16 bigEndian third fourth
      if 0xd800 ≤ high && high < 0xdc00 && 0xdc00 ≤ low && low < 0xe000 then
        .point (0x10000 + (high - 0xd800) * 0x400 + (low - 0xdc00)) 4
      else .point high 2
    | _ => .point high 2

/-- One step of UTF-32; a surrogate counts as a code point. -/
def stepUtf32 (bigEndian : Bool) (first : UInt8) (rest : List UInt8) : Step :=
  match rest with
  | second :: third :: fourth :: _ =>
    let a := unit16 bigEndian first second
    let b := unit16 bigEndian third fourth
    let point := if bigEndian then a * 0x10000 + b else b * 0x10000 + a
    if point < 0x110000 then .point point 4 else .fault 4 .outOfRange
  | _ => .fault (rest.length + 1) .truncated

/-- One step of an encoding, with surrogates as code points. -/
def Encoding.step : Encoding → UInt8 → List UInt8 → Step
  | .utf8 => stepUtf8Surrogates
  | .utf16le => stepUtf16 false
  | .utf16be => stepUtf16 true
  | .utf32le => stepUtf32 false
  | .utf32be => stepUtf32 true

/-- Decode step by step and refuse the whole text at the first fault. `skip` octets belong to the code
point before, and `position` counts the octets passed. -/
def decodeWith (encoding : Encoding) (step : UInt8 → List UInt8 → Step) (position skip : Nat) :
    List UInt8 → Except DecodeError (List Nat)
  | [] => .ok []
  | first :: rest =>
    match skip with
    | skip + 1 => decodeWith encoding step (position + 1) skip rest
    | 0 => match step first rest with
      | .point value size => do
        return value :: (← decodeWith encoding step (position + 1) (size - 1) rest)
      | .fault size reason => .error ⟨encoding, position, first, size, reason⟩

/-- Decode UTF-8 and put a replacement character in the place of each fault. -/
def decodeReplacing (skip : Nat) : List UInt8 → List Char
  | [] => []
  | first :: rest =>
    match skip with
    | skip + 1 => decodeReplacing skip rest
    | 0 => match stepUtf8 first rest with
      | .point value size => Char.ofNat value :: decodeReplacing (size - 1) rest
      | .fault size _ => '\ufffd' :: decodeReplacing (size - 1) rest

/-- Decode UTF-8 strictly: the code points are characters. -/
def decodeUtf8 (octets : List UInt8) : Except DecodeError (List Char) :=
  (decodeWith .utf8 stepUtf8 0 0 octets).map (·.map Char.ofNat)

/-- The octets of a text in UTF-8. -/
def encodeUtf8 (s : String) : List UInt8 := s.toList.flatMap String.utf8EncodeChar

/-- Read every line end, `\r\n` and `\r` included, as `\n`. -/
def unifyLineEnds : List Char → List Char
  | [] => []
  | '\r' :: '\n' :: rest => '\n' :: unifyLineEnds rest
  | '\r' :: rest => '\n' :: unifyLineEnds rest
  | c :: rest => c :: unifyLineEnds rest

end TaskEndpoints.Text
