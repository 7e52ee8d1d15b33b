import TaskEndpoints.Text.Digit
import TaskEndpoints.Json.Reader
import TaskEndpoints.Value.Display

/-!
# Integers from values

Ports, creation times and a few settings are integers that may arrive as text or as doubles. A text is
an optional sign and decimal digits of any script, with single underscores between digits and white
space around them.

## Implementation notes

Digits are counted before what follows them is looked at, so a number with too many digits is reported
as such even where something else is wrong behind it.
-/

namespace TaskEndpoints

/-- Why a value denotes no integer. -/
inductive IntegerError where
  /-- A text, shown in quotes, that is no integer. -/
  | notIntegral (shown : String)
  /-- A text with more digits than are converted. -/
  | tooManyDigits (count : Nat)
  | undefined
  | infinite
  | wrongType (typeWord : String)
deriving DecidableEq, Repr

/-- The wording of each cause; a long text is shown in part. -/
def IntegerError.message : IntegerError → String
  | .notIntegral shown =>
    "invalid literal for int() with base 10: " ++ String.ofList (shown.toList.take 200)
  | .tooManyDigits count => Json.tooManyDigitsMessage count
  | .undefined => "cannot convert float NaN to integer"
  | .infinite => "cannot convert float infinity to integer"
  | .wrongType word =>
    "int() argument must be a string, a bytes-like object or a real number, not '" ++ word ++ "'"

/-- White space around an integer; the information separators are none. -/
def isIntegerSpace (c : Char) : Bool :=
  Text.isBlank c && !(0x1c ≤ c.toNat && c.toNat ≤ 0x1f)

/-- Read digits with single underscores between them, the first character being a digit. The answer is
the digits and the rest of the text. -/
def readGroupedDigits : List Char → Option (List Char × List Char)
  | [] => none
  | c :: rest =>
    if !Text.isDecimal c then none
    else match rest with
      | '_' :: more => (readGroupedDigits more).map fun (digits, after) => (c :: digits, after)
      | next :: more =>
        if Text.isDecimal next then
          (readGroupedDigits (next :: more)).map fun (digits, after) => (c :: digits, after)
        else some ([c], rest)
      | [] => some ([c], [])

/-- Read an integer from characters; `shown` is what an error shows. -/
def readInteger (shown : String) (cs : List Char) : Except IntegerError Int :=
  let (negative, unsigned) := match cs.dropWhile isIntegerSpace with
    | '-' :: rest => (true, rest)
    | '+' :: rest => (false, rest)
    | rest => (false, rest)
  match readGroupedDigits unsigned with
  | none => .error (.notIntegral shown)
  | some (digits, after) =>
    if Json.digitLimit < digits.length then .error (.tooManyDigits digits.length)
    else if (after.dropWhile isIntegerSpace).isEmpty then
      let n : Int := Text.decimalNumber digits
      .ok (if negative then -n else n)
    else .error (.notIntegral shown)

/-- The integer that a value denotes; a double loses its fraction. -/
def Value.toInteger (v : Value) : Except IntegerError Int :=
  match v with
  | .bool b => .ok (if b then 1 else 0)
  | .int n => .ok n
  | .float x => match Dyadic.ofFloat x, (Dyadic.ofFloat x).truncate? with
    | _, some n => .ok n
    | .undefined, none => .error .undefined
    | _, none => .error .infinite
  | .text s => readInteger v.display s.toList
  | .octets bytes =>
    if bytes.all (· < 0x80) then readInteger v.display (bytes.map fun b => Char.ofNat b.toNat)
    else .error (.notIntegral v.display)
  | .surrogateText _ => .error (.notIntegral v.display)
  | _ => .error (.wrongType v.longTypeWord)

@[simp] theorem Value.toInteger_int (n : Int) : (Value.int n).toInteger = .ok n := rfl

end TaskEndpoints
