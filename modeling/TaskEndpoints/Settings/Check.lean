import TaskEndpoints.Json.Reader
import TaskEndpoints.Value.Display

/-!
# Checks of setting values

A check accepts a value or has a complaint about it. A check whose values can be compared with nothing
but numbers may also be unable to judge a value at all.

## Implementation notes

Numbers are compared exactly, whatever their type. A truth value passes as a number in comparisons but
not where an integer is asked for by type.
-/

namespace TaskEndpoints

/-- The types that a check can ask for. -/
inductive TypeName where
  | int
  | text
  | bool
  | float
  | list
  | map
deriving DecidableEq, Repr

namespace TypeName

/-- The word for a type. -/
def word : TypeName → String
  | .int => "int"
  | .text => "str"
  | .bool => "bool"
  | .float => "float"
  | .list => "list"
  | .map => "dict"

/-- Decide whether a value has the type; a truth value has no other type than its own. -/
def holds (t : TypeName) (v : Value) : Bool := v.typeWord == t.word

end TypeName

/-- The text patterns that a check can ask for. -/
inductive Pattern where
  /-- One or more ASCII digits. -/
  | digits
  /-- Nothing, or an address of the web without white space. -/
  | webAddress
deriving DecidableEq, Repr

/-- Decide whether a whole text matches a pattern. -/
def Pattern.holds (p : Pattern) (cs : List Char) : Bool :=
  match p with
  | .digits => !cs.isEmpty && cs.all Json.isAsciiDigit
  | .webAddress =>
    let afterScheme := match cs with
      | 'h' :: 't' :: 't' :: 'p' :: 's' :: ':' :: '/' :: '/' :: rest => rest
      | 'h' :: 't' :: 't' :: 'p' :: ':' :: '/' :: '/' :: rest => rest
      | _ => []
    cs.isEmpty || (!afterScheme.isEmpty && afterScheme.all fun c => !Text.isBlank c)

/-- A check of one value. -/
inductive Check where
  /-- The value has one of the types. -/
  | ofType (types : List TypeName)
  | inRange (low high : Value)
  /-- The value equals one of the choices. -/
  | oneOf (choices : List Value)
  /-- The value is a text that matches a pattern; the hint completes the complaint. -/
  | fits (pattern : Pattern) (hint : String)
  /-- The value maps texts that are not empty to texts. -/
  | tagMapping
  /-- The value passes every check, tried in order. -/
  | allOf (checks : List Check)
deriving Inhabited

/-- What a check has to say against a value. -/
inductive Complaint where
  /-- The value has none of the types. -/
  | wrongType (expected : List TypeName) (got : String)
  | outOfRange (value low high : Value)
  /-- The value is none of the choices. -/
  | notAmong (value : Value) (choices : List Value)
  /-- The value does not match the pattern. -/
  | misfit (value : Value) (hint : String)
  | notMapping (got : String)
  /-- A key of the mapping is no text or is empty. -/
  | badTagKey (key : Value)
  /-- The value of a key of the mapping is no text. -/
  | badTagValue (key : Value)

/-- The wording of each complaint. -/
def Complaint.message : Complaint → String
  | .wrongType expected got =>
    "expected " ++ " or ".intercalate (expected.map TypeName.word) ++ ", got " ++ got
  | .outOfRange value low high =>
    value.plain ++ " is out of range [" ++ low.plain ++ ", " ++ high.plain ++ "]"
  | .notAmong value choices =>
    value.display ++ " is not one of " ++ ", ".intercalate (choices.map Value.plain)
  | .misfit value hint => value.display ++ " " ++ hint
  | .notMapping got => "expected mapping of tags, got " ++ got
  | .badTagKey key => "tag key " ++ key.display ++ " must be a non-empty string"
  | .badTagValue key => "tag '" ++ key.plain ++ "' must have a string value"

/-- A comparison of two values that have no order between them. -/
structure Incomparable where
  left : String
  right : String
deriving DecidableEq, Repr

/-- The wording of the cause. -/
def Incomparable.message (e : Incomparable) : String :=
  "'<=' not supported between instances of '" ++ e.left ++ "' and '" ++ e.right ++ "'"

namespace Value

/-- Decide whether a value is at most another. -/
def atMost (a b : Value) : Except Incomparable Bool :=
  match a.dyadic?, b.dyadic? with
  | some x, some y => .ok (x.le y)
  | _, _ => .error ⟨a.longTypeWord, b.longTypeWord⟩

mutual

/-- Equality in which numbers of different types may be equal and entries may be in any order. -/
def equal : Value → Value → Bool
  | .list a, .list b => equalAll a b
  | .map a, .map b => a.length == b.length && equalEntries a b
  | .moment a, .moment b =>
    a.offset.isSome == b.offset.isSome && a.universalMicros == b.universalMicros
  | a, b => match a.dyadic?, b.dyadic? with
    | some x, some y => x.same y
    | _, _ => a.sameAs b

/-- Equality of sequences, item by item. -/
def equalAll : List Value → List Value → Bool
  | [], [] => true
  | a :: as, b :: bs => equal a b && equalAll as bs
  | _, _ => false

/-- Decide whether every entry has an equal one in the other list. -/
def equalEntries : List (Value × Value) → List (Value × Value) → Bool
  | [], _ => true
  | (k, v) :: rest, other => other.any (fun e => equal k e.1 && equal v e.2) && equalEntries rest other

end

/-- Decide whether a value is a text. -/
def isText : Value → Bool
  | .text _ | .surrogateText _ => true
  | _ => false

end Value

/-- The first complaint about the entries of a tag mapping. -/
def tagComplaint? : List (Value × Value) → Option Complaint
  | [] => none
  | (key, value) :: rest =>
    if !key.isText || !key.isTruthy then some (.badTagKey key)
    else if !value.isText then some (.badTagValue key)
    else tagComplaint? rest

mutual

/-- Judge a value: nothing, or the complaint about it. -/
def Check.judge : Check → Value → Except Incomparable (Option Complaint)
  | .ofType types, v =>
    .ok (if types.any (·.holds v) then none else some (.wrongType types v.typeWord))
  | .inRange low high, v => do
    if ← low.atMost v then
      if ← v.atMost high then return none
    return some (.outOfRange v low high)
  | .oneOf choices, v =>
    .ok (if choices.any (·.equal v) then none else some (.notAmong v choices))
  | .fits pattern hint, v =>
    .ok (if v.isText then
      if pattern.holds v.plain.toList then none else some (.misfit v hint)
    else some (.wrongType [.text] v.typeWord))
  | .tagMapping, v => .ok (match v with
    | .map entries => tagComplaint? entries
    | _ => some (.notMapping v.typeWord))
  | .allOf checks, v => Check.judgeAll checks v

/-- The first complaint of a list of checks. -/
def Check.judgeAll : List Check → Value → Except Incomparable (Option Complaint)
  | [], _ => .ok none
  | check :: rest, v => do
    match ← check.judge v with
    | none => Check.judgeAll rest v
    | some complaint => return some complaint

end

/-- A value passes a check that has no complaint about it. -/
def Check.Accepts (c : Check) (v : Value) : Prop := c.judge v = .ok none

instance (c : Check) (v : Value) : Decidable (c.Accepts v) :=
  match h : c.judge v with
  | .ok none => isTrue h
  | .ok (some _) => isFalse fun h' => by simp [Check.Accepts, h] at h'
  | .error _ => isFalse fun h' => by simp [Check.Accepts, h] at h'

end TaskEndpoints
