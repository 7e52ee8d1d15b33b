import TaskEndpoints.Value.Basic

/-!
# Reading JSON text

Reading accepts the documents of the JSON standard and three further words, `NaN`, `Infinity` and
`-Infinity`. A repeated key keeps the place of its first field and takes the value of its last.

## Implementation notes

Every reading function takes the rest of the text and returns what remains behind the thing read. A
fault holds the rest of the text from the character at fault on; positions are computed from it in the
end. The number of steps is bounded by twice the length of the text, for every character opens at most
one container and each container takes two steps.
-/

namespace TaskEndpoints.Json

/-- What is wrong at one place of a text. -/
inductive FaultKind where
  | expectedValue
  | expectedName
  /-- A field name is not followed by a colon. -/
  | expectedColon
  /-- An item is followed neither by a comma nor by the end of its container. -/
  | expectedComma
  /-- The text that starts here does not end. -/
  | unterminated
  /-- A control character stands in a text. -/
  | controlCharacter
  /-- A backslash is followed by a character that it does not escape. -/
  | badEscape
  /-- A numeric escape lacks four hexadecimal digits. -/
  | badUnicodeEscape
  | extraData
  /-- The text starts with a byte order mark. -/
  | byteOrderMark
deriving DecidableEq, Repr

/-- The wording of each kind of fault. -/
def FaultKind.message : FaultKind → String
  | .expectedValue => "Expecting value"
  | .expectedName => "Expecting property name enclosed in double quotes"
  | .expectedColon => "Expecting ':' delimiter"
  | .expectedComma => "Expecting ',' delimiter"
  | .unterminated => "Unterminated string starting at"
  | .controlCharacter => "Invalid control character at"
  | .badEscape => "Invalid \\escape"
  | .badUnicodeEscape => "Invalid \\uXXXX escape"
  | .extraData => "Extra data"
  | .byteOrderMark => "Unexpected UTF-8 BOM (decode using utf-8-sig)"

/-- Why reading stopped before the end was reached. -/
inductive Fault where
  /-- The text from the fault on, and what is wrong there. -/
  | syntactic (kind : FaultKind) (rest : List Char)
  /-- An integer has more digits than are converted. -/
  | tooManyDigits (count : Nat)
deriving DecidableEq, Repr

/-- Why a text is no JSON document. -/
inductive ReadError where
  /-- A fault at a line, column and offset. -/
  | syntactic (kind : FaultKind) (line column offset : Nat)
  /-- An integer has more digits than are converted. -/
  | tooManyDigits (count : Nat)
deriving DecidableEq, Repr

/-- The largest number of digits of an integer that is converted. -/
def digitLimit : Nat := 4300

/-- The wording for an integer with too many digits. -/
def tooManyDigitsMessage (count : Nat) : String :=
  "Exceeds the limit (4300 digits) for integer string conversion: value has "
    ++ String.ofList (decimalDigits count)
    ++ " digits; use sys.set_int_max_str_digits() to increase the limit"

/-- The wording of each cause. -/
def ReadError.message : ReadError → String
  | .syntactic kind line column offset =>
    kind.message ++ ": line " ++ toString line ++ " column " ++ toString column
      ++ " (char " ++ toString offset ++ ")"
  | .tooManyDigits count => tooManyDigitsMessage count

/-- Locate a fault in the whole text. -/
def Fault.locate (text : List Char) : Fault → ReadError
  | .syntactic kind rest =>
    let offset := text.length - rest.length
    let before := text.take offset
    .syntactic kind (before.count '\n' + 1)
      (before.reverse.takeWhile (· != '\n')).length.succ offset
  | .tooManyDigits count => .tooManyDigits count

/-- Decide whether a character is white space between tokens. -/
def isSpace (c : Char) : Bool := c == ' ' || c == '\t' || c == '\n' || c == '\r'

/-- Drop white space between tokens. -/
def skipSpace (cs : List Char) : List Char := cs.dropWhile isSpace

/-- Decide whether a character is an ASCII digit. -/
def isAsciiDigit (c : Char) : Bool := '0' ≤ c && c ≤ '9'

/-- The value of a hexadecimal digit. -/
def hexDigit? (c : Char) : Option Nat :=
  if '0' ≤ c && c ≤ '9' then some (c.toNat - 48)
  else if 'a' ≤ c && c ≤ 'f' then some (c.toNat - 87)
  else if 'A' ≤ c && c ≤ 'F' then some (c.toNat - 55)
  else none

/-- The number of four hexadecimal digits. -/
def hex4? (a b c d : Char) : Option Nat := do
  return ((← hexDigit? a) * 16 + (← hexDigit? b)) * 256 + ((← hexDigit? c) * 16 + (← hexDigit? d))

/-- The code point of an escape by one letter. -/
def letterEscape? : Char → Option Nat
  | '"' => some 0x22
  | '\\' => some 0x5c
  | '/' => some 0x2f
  | 'b' => some 0x08
  | 'f' => some 0x0c
  | 'n' => some 0x0a
  | 'r' => some 0x0d
  | 't' => some 0x09
  | _ => none

/-- Join each high surrogate with a low one that follows it. -/
def joinSurrogates : List Nat → List Nat
  | [] => []
  | [p] => [p]
  | p :: q :: rest =>
    if 0xd800 ≤ p && p < 0xdc00 && 0xdc00 ≤ q && q < 0xe000 then
      (0x10000 + (p - 0xd800) * 0x400 + (q - 0xdc00)) :: joinSurrogates rest
    else p :: joinSurrogates (q :: rest)

/-- Read the rest of a text behind its opening quote. `start` is the text from that quote on, and
`done` holds the code points read so far, last first. -/
def readPoints (start : List Char) (done : List Nat) : List Char → Except Fault (List Nat × List Char)
  | [] => .error (.syntactic .unterminated start)
  | '"' :: rest => .ok (joinSurrogates done.reverse, rest)
  | ['\\'] => .error (.syntactic .unterminated start)
  | '\\' :: 'u' :: a :: b :: c :: d :: e :: rest =>
    match hex4? a b c d with
    | some unit => readPoints start (unit :: done) (e :: rest)
    | none => .error (.syntactic .badUnicodeEscape ('u' :: a :: b :: c :: d :: e :: rest))
  | '\\' :: 'u' :: rest => .error (.syntactic .badUnicodeEscape ('u' :: rest))
  | '\\' :: letter :: rest =>
    match letterEscape? letter with
    | some point => readPoints start (point :: done) rest
    | none => .error (.syntactic .badEscape ('\\' :: letter :: rest))
  | c :: rest =>
    if c.toNat < 0x20 then .error (.syntactic .controlCharacter (c :: rest))
    else readPoints start (c.toNat :: done) rest

/-- The digits after a point, if a point and a digit stand here. -/
def readDecimals : List Char → List Char × List Char
  | '.' :: d :: rest =>
    if isAsciiDigit d then ((d :: rest).takeWhile isAsciiDigit, (d :: rest).dropWhile isAsciiDigit)
    else ([], '.' :: d :: rest)
  | cs => ([], cs)

/-- The sign and digits of an exponent, if a complete one stands here. -/
def readExponent? : List Char → Option (Bool × List Char × List Char)
  | e :: rest =>
    if e == 'e' || e == 'E' then
      let (negative, digits) := match rest with
        | '-' :: ds => (true, ds)
        | '+' :: ds => (false, ds)
        | ds => (false, ds)
      let taken := digits.takeWhile isAsciiDigit
      if taken.isEmpty then none else some (negative, taken, digits.dropWhile isAsciiDigit)
    else none
  | [] => none

/-- The natural number of a run of ASCII digits. -/
def asciiNumber (digits : List Char) : Nat :=
  digits.foldl (fun n c => 10 * n + (c.toNat - 48)) 0

/-- The digits of an integer without superfluous zeros in front. -/
def readWhole? : List Char → Option (List Char × List Char)
  | [] => none
  | c :: rest =>
    if c == '0' then some (['0'], rest)
    else if isAsciiDigit c then some (c :: rest.takeWhile isAsciiDigit, rest.dropWhile isAsciiDigit)
    else none

/-- The double of a number with its parts. -/
def doubleOf (negative : Bool) (whole decimals : List Char) (exponent : Int) : Float :=
  let magnitude := nearestDouble (asciiNumber (whole ++ decimals)) (exponent - decimals.length)
  if negative then -magnitude else magnitude

/-- Read a number; `start` is the text from its first character on, sign included. -/
def readNumber (start : List Char) : Except Fault (Value × List Char) :=
  let (negative, unsigned) := match start with
    | '-' :: rest => (true, rest)
    | cs => (false, cs)
  match readWhole? unsigned with
  | none => .error (.syntactic .expectedValue start)
  | some (whole, afterWhole) =>
    let (decimals, afterDecimals) := readDecimals afterWhole
    match readExponent? afterDecimals with
    | some (negativeExponent, digits, rest) =>
      let e : Int := asciiNumber digits
      .ok (.float (doubleOf negative whole decimals (if negativeExponent then -e else e)), rest)
    | none =>
      if decimals.isEmpty then
        if digitLimit < whole.length then .error (.tooManyDigits whole.length)
        else
          let n : Int := asciiNumber whole
          .ok (.int (if negative then -n else n), afterWhole)
      else .ok (.float (doubleOf negative whole decimals 0), afterDecimals)

/-- Read one of the words, if one stands here. -/
def readWord? : List Char → Option (Value × List Char)
  | 'n' :: 'u' :: 'l' :: 'l' :: rest => some (.null, rest)
  | 't' :: 'r' :: 'u' :: 'e' :: rest => some (.bool true, rest)
  | 'f' :: 'a' :: 'l' :: 's' :: 'e' :: rest => some (.bool false, rest)
  | 'N' :: 'a' :: 'N' :: rest => some (.float (0 / 0), rest)
  | 'I' :: 'n' :: 'f' :: 'i' :: 'n' :: 'i' :: 't' :: 'y' :: rest => some (.float (1 / 0), rest)
  | '-' :: 'I' :: 'n' :: 'f' :: 'i' :: 'n' :: 'i' :: 't' :: 'y' :: rest =>
    some (.float (-1 / 0), rest)
  | _ => none

mutual

/-- Read a value. The first argument bounds the depth of nesting. -/
def readValue : Nat → List Char → Except Fault (Value × List Char)
  | 0, cs => .error (.syntactic .expectedValue cs)
  | fuel + 1, cs => match cs with
    | [] => .error (.syntactic .expectedValue cs)
    | c :: rest =>
      if c = '"' then do
        let (points, after) ← readPoints cs [] rest
        return (.ofPoints points, after)
      else if c = '[' then
        match skipSpace rest with
        | ']' :: after => .ok (.list [], after)
        | items => readItems fuel [] items
      else if c = '\x7b' then
        match skipSpace rest with
        | '\x7d' :: after => .ok (.map [], after)
        | fields => readFields fuel [] fields
      else match readWord? cs with
        | some found => .ok found
        | none => readNumber cs

/-- Read the items of a list up to its end; `done` holds the earlier items, last first. -/
def readItems : Nat → List Value → List Char → Except Fault (Value × List Char)
  | 0, _, cs => .error (.syntactic .expectedValue cs)
  | fuel + 1, done, cs => do
    let (item, after) ← readValue fuel cs
    match skipSpace after with
    | ']' :: rest => return (.list (item :: done).reverse, rest)
    | ',' :: rest => readItems fuel (item :: done) (skipSpace rest)
    | rest => .error (.syntactic .expectedComma rest)

/-- Read the fields of an object up to its end; `done` holds the earlier fields. -/
def readFields : Nat → List (Value × Value) → List Char → Except Fault (Value × List Char)
  | 0, _, cs => .error (.syntactic .expectedName cs)
  | fuel + 1, done, cs => match cs with
    | '"' :: inner => do
      let (points, afterName) ← readPoints cs [] inner
      match skipSpace afterName with
      | ':' :: beforeValue =>
        let (item, after) ← readValue fuel (skipSpace beforeValue)
        let fields := Assoc.insert done (Value.ofPoints points) item
        match skipSpace after with
        | '\x7d' :: rest => return (.map fields, rest)
        | ',' :: rest => readFields fuel fields (skipSpace rest)
        | rest => .error (.syntactic .expectedComma rest)
      | rest => .error (.syntactic .expectedColon rest)
    | _ => .error (.syntactic .expectedName cs)

end

/-- Read a document: one value with white space around it. -/
def readBare (text : List Char) : Except Fault Value := do
  let (v, after) ← readValue (2 * text.length + 2) (skipSpace text)
  match skipSpace after with
  | [] => return v
  | rest => .error (.syntactic .extraData rest)

/-- Read a document that has not been decoded from octets, where a byte order mark is out of place. -/
def readDocument (text : List Char) : Except Fault Value :=
  if text.head? = some '\ufeff' then .error (.syntactic .byteOrderMark text) else readBare text

/-- Read a JSON text given by its characters. -/
def readChars (text : List Char) : Except ReadError Value :=
  (readDocument text).mapError (Fault.locate text)

/-- Read a JSON text. -/
def read (text : String) : Except ReadError Value := readChars text.toList

end TaskEndpoints.Json
