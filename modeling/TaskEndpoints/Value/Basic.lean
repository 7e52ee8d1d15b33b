import TaskEndpoints.Assoc
import TaskEndpoints.Calendar.Moment

/-!
# Values

The values that reach the service from outside without a type of their own: settings, samples and
container entries from the engine, override files, answers of the credential service.

## Implementation notes

A map is a list of entries with arbitrary keys, in order. Text that holds an unpaired surrogate is kept
as code points, because no `String` holds it; every other text is a `String`.
-/

namespace TaskEndpoints

/-- A value without a fixed type. -/
inductive Value where
  | null
  | bool (b : Bool)
  | int (n : Int)
  | float (x : Float)
  | text (s : String)
  /-- A text with an unpaired surrogate, as code points. -/
  | surrogateText (points : List Nat)
  | octets (bytes : List UInt8)
  | list (items : List Value)
  | map (entries : List (Value × Value))
  | moment (m : Moment)

instance : Inhabited Value := ⟨.null⟩

/-- The fields of an object. -/
abbrev Fields := List (Value × Value)

namespace Value

mutual

/-- Structural equality as a test. -/
def sameAs : Value → Value → Bool
  | .null, .null => true
  | .bool a, .bool b => a == b
  | .int a, .int b => a == b
  | .float a, .float b => decide (a = b)
  | .text a, .text b => a == b
  | .surrogateText a, .surrogateText b => a == b
  | .octets a, .octets b => a == b
  | .list a, .list b => allSame a b
  | .map a, .map b => entriesSame a b
  | .moment a, .moment b => decide (a = b)
  | _, _ => false

/-- Structural equality of sequences as a test. -/
def allSame : List Value → List Value → Bool
  | [], [] => true
  | a :: as, b :: bs => sameAs a b && allSame as bs
  | _, _ => false

/-- Structural equality of entries as a test. -/
def entriesSame : List (Value × Value) → List (Value × Value) → Bool
  | [], [] => true
  | (a, x) :: as, (b, y) :: bs => sameAs a b && sameAs x y && entriesSame as bs
  | _, _ => false

end

mutual

theorem sameAs_iff : (a b : Value) → (sameAs a b = true ↔ a = b)
  | .null, b => by cases b <;> simp [sameAs]
  | .bool _, b => by cases b <;> simp [sameAs]
  | .int _, b => by cases b <;> simp [sameAs]
  | .float _, b => by cases b <;> simp [sameAs]
  | .text _, b => by cases b <;> simp [sameAs]
  | .surrogateText _, b => by cases b <;> simp [sameAs]
  | .octets _, b => by cases b <;> simp [sameAs]
  | .list xs, b => by cases b <;> simp [sameAs, allSame_iff xs]
  | .map xs, b => by cases b <;> simp [sameAs, entriesSame_iff xs]
  | .moment _, b => by cases b <;> simp [sameAs]

theorem allSame_iff : (as bs : List Value) → (allSame as bs = true ↔ as = bs)
  | [], bs => by cases bs <;> simp [allSame]
  | a :: as, bs => by cases bs <;> simp [allSame, sameAs_iff a, allSame_iff as]

theorem entriesSame_iff : (as bs : List (Value × Value)) → (entriesSame as bs = true ↔ as = bs)
  | [], bs => by cases bs <;> simp [entriesSame]
  | (a, x) :: as, bs => by
    cases bs with
    | nil => simp [entriesSame]
    | cons b bs => cases b; simp [entriesSame, sameAs_iff a, sameAs_iff x, entriesSame_iff as]

end

instance : DecidableEq Value := fun a b => decidable_of_iff _ (sameAs_iff a b)

/-- The value of a text given by code points. -/
def ofPoints (points : List Nat) : Value :=
  if points.all Nat.isValidChar then .text (String.ofList (points.map Char.ofNat))
  else .surrogateText points

/-- A map whose keys are texts. -/
def object (fields : List (String × Value)) : Value :=
  .map (fields.map fun f => (.text f.1, f.2))

/-- The value of a field of an entry list; a missing field is null. -/
def fieldOf (entries : List (Value × Value)) (name : String) : Value :=
  (Assoc.get? entries (.text name)).getD .null

/-- The short word for the type of a value. -/
def typeWord : Value → String
  | .null => "NoneType"
  | .bool _ => "bool"
  | .int _ => "int"
  | .float _ => "float"
  | .text _ | .surrogateText _ => "str"
  | .octets _ => "bytes"
  | .list _ => "list"
  | .map _ => "dict"
  | .moment _ => "datetime"

/-- The full word for the type of a value. -/
def longTypeWord : Value → String
  | .moment _ => "datetime.datetime"
  | v => v.typeWord

/-- Zero, nothing and the empty sequences count as false. -/
def isTruthy : Value → Bool
  | .null => false
  | .bool b => b
  | .int n => n != 0
  | .float x => x != 0
  | .text s => !s.isEmpty
  | .surrogateText points => !points.isEmpty
  | .octets bytes => !bytes.isEmpty
  | .list items => !items.isEmpty
  | .map entries => !entries.isEmpty
  | .moment _ => true

/-- The first value if it counts as true, else the second. -/
def orElse (v fallback : Value) : Value := if v.isTruthy then v else fallback

/-- The exact number that a value denotes; truth values count as one and zero. -/
def dyadic? : Value → Option Dyadic
  | .bool b => some (.ofInt (if b then 1 else 0))
  | .int n => some (.ofInt n)
  | .float x => some (.ofFloat x)
  | _ => none

end Value

end TaskEndpoints
