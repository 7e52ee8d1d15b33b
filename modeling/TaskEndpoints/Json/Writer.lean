import TaskEndpoints.Value.Basic

/-!
# Writing JSON text

The JSON text of a value: one line of visible ASCII characters and spaces, with `", "` between items
and `": "` after keys, fields in the order of the map.

## Implementation notes

A character outside U+0020 to U+007E is written as the escape of its UTF-16 units, and an unpaired
surrogate as the escape of itself. Doubles without digits are written as the words `NaN`, `Infinity`
and `-Infinity`.
-/

namespace TaskEndpoints.Json

/-- The words for doubles without digits in JSON text. -/
def doubleWords : DoubleWords := ⟨"Infinity", "NaN"⟩

/-- Why a value has no JSON text. -/
inductive WriteError where
  /-- No JSON form exists for values of this type. -/
  | notSerializable (typeWord : String)
  /-- A key is neither a text nor a number, truth value or null. -/
  | badKey (typeWord : String)
deriving DecidableEq, Repr

/-- The wording of each cause. -/
def WriteError.message : WriteError → String
  | .notSerializable word => "Object of type " ++ word ++ " is not JSON serializable"
  | .badKey word => "keys must be str, int, float, bool or None, not " ++ word

/-- Four lower-case hexadecimal digits. -/
def hex4 (unit : Nat) : List Char :=
  [unit / 4096 % 16, unit / 256 % 16, unit / 16 % 16, unit % 16].map Nat.digitChar

/-- The escape of one UTF-16 unit. -/
def unitEscape (unit : Nat) : List Char := '\\' :: 'u' :: hex4 unit

/-- The UTF-16 units of a code point. -/
def units16 (point : Nat) : List Nat :=
  if point < 0x10000 then [point]
  else [0xd800 + (point - 0x10000) / 0x400, 0xdc00 + (point - 0x10000) % 0x400]

/-- The written form of one code point inside a text. -/
def escapePoint (point : Nat) : List Char :=
  if point = 0x22 then ['\\', '"']
  else if point = 0x5c then ['\\', '\\']
  else if point = 0x0a then ['\\', 'n']
  else if point = 0x0d then ['\\', 'r']
  else if point = 0x09 then ['\\', 't']
  else if point = 0x0c then ['\\', 'f']
  else if point = 0x08 then ['\\', 'b']
  else if 0x20 ≤ point && point ≤ 0x7e then [Char.ofNat point]
  else (units16 point).flatMap unitEscape

/-- The written form of a text. -/
def writePoints (points : List Nat) : List Char :=
  '"' :: points.flatMap escapePoint ++ ['"']

/-- The written form of a text. -/
def writeText (s : String) : List Char := writePoints (s.toList.map Char.toNat)

/-- Put a separator between the written forms of items. -/
def joinItems : List (List Char) → List Char
  | [] => []
  | [item] => item
  | item :: rest => item ++ ',' :: ' ' :: joinItems rest

/-- The text of a value that takes no recursion to write, if it is one. -/
def writeScalar? : Value → Option (List Char)
  | .null => some ['n', 'u', 'l', 'l']
  | .bool true => some ['t', 'r', 'u', 'e']
  | .bool false => some ['f', 'a', 'l', 's', 'e']
  | .int n => some (intText n).toList
  | .float x => some (doubleText doubleWords x).toList
  | _ => none

/-- The written form of a key; scalars are written as the text of their JSON form. -/
def writeKey : Value → Except WriteError (List Char)
  | .text s => .ok (writeText s)
  | .surrogateText points => .ok (writePoints points)
  | key => match writeScalar? key with
    | some cs => .ok ('"' :: cs ++ ['"'])
    | none => .error (.badKey key.typeWord)

mutual

/-- The JSON text of a value as characters. -/
def writeChars : Value → Except WriteError (List Char)
  | .text s => .ok (writeText s)
  | .surrogateText points => .ok (writePoints points)
  | .list items => do return '[' :: joinItems (← writeItems items) ++ [']']
  | .map entries => do return '\x7b' :: joinItems (← writeEntries entries) ++ ['\x7d']
  | v => match writeScalar? v with
    | some cs => .ok cs
    | none => .error (.notSerializable v.typeWord)

/-- The written forms of a sequence. -/
def writeItems : List Value → Except WriteError (List (List Char))
  | [] => .ok []
  | v :: rest => do
    let item ← writeChars v
    return item :: (← writeItems rest)

/-- The written forms of entries. -/
def writeEntries : List (Value × Value) → Except WriteError (List (List Char))
  | [] => .ok []
  | (k, v) :: rest => do
    let key ← writeKey k
    let item ← writeChars v
    return (key ++ ':' :: ' ' :: item) :: (← writeEntries rest)

end

/-- The JSON text of a value. -/
def write (v : Value) : Except WriteError String := do
  return String.ofList (← writeChars v)

end TaskEndpoints.Json
