import TaskEndpoints.Value.Basic

/-!
# Elements and entries of values

Where a sequence is expected, a list gives its items, a map its keys, a text its characters and octets
their numbers. Where entries are expected, a map gives its own, and a sequence of pairs gives one entry
for each pair; a repeated key keeps its first place and its last value.
-/

namespace TaskEndpoints

/-- Why a value has no entries. -/
inductive EntriesError where
  | notIterable (typeWord : String)
  | elementNotSequence (index : Nat)
  /-- An element is a sequence but no pair. -/
  | elementNotPair (index length : Nat)
  /-- A key is a value that cannot be looked up. -/
  | keyNotHashable (typeWord : String)
deriving DecidableEq, Repr

/-- The wording of each cause. -/
def EntriesError.message : EntriesError → String
  | .notIterable word => "'" ++ word ++ "' object is not iterable"
  | .elementNotSequence index =>
    "cannot convert dictionary update sequence element #" ++ toString index ++ " to a sequence"
  | .elementNotPair index length =>
    "dictionary update sequence element #" ++ toString index ++ " has length " ++ toString length
      ++ "; 2 is required"
  | .keyNotHashable word => "unhashable type: '" ++ word ++ "'"

namespace Value

/-- The elements of a value that has some. -/
def elements? : Value → Option (List Value)
  | .list items => some items
  | .map entries => some (entries.map (·.1))
  | .text s => some (s.toList.map fun c => .text (String.singleton c))
  | .surrogateText points => some (points.map fun p => ofPoints [p])
  | .octets bytes => some (bytes.map fun b => .int b.toNat)
  | _ => none

/-- Decide whether a value can be the key of an entry. -/
def isHashable : Value → Bool
  | .list _ | .map _ => false
  | _ => true

/-- The entry that the element at an index stands for. -/
def toEntry (index : Nat) (v : Value) : Except EntriesError (Value × Value) :=
  match v.elements? with
  | none => .error (.elementNotSequence index)
  | some [key, value] =>
    if key.isHashable then .ok (key, value) else .error (.keyNotHashable key.longTypeWord)
  | some other => .error (.elementNotPair index other.length)

/-- The entries of a value. -/
def toEntries (v : Value) : Except EntriesError (Assoc Value Value) :=
  match v with
  | .map entries => .ok entries
  | other => match other.elements? with
    | none => .error (.notIterable other.longTypeWord)
    | some items => do
      let pairs ← items.zipIdx.mapM fun (item, index) => item.toEntry index
      return Assoc.ofPairs pairs

@[simp] theorem elements?_list (items : List Value) : (Value.list items).elements? = some items := rfl

@[simp] theorem toEntries_map (entries : Assoc Value Value) :
    (Value.map entries).toEntries = .ok entries := rfl

end Value

end TaskEndpoints
