import TaskEndpoints.Container.Basic
import TaskEndpoints.Value.Elements
import TaskEndpoints.Value.Integer

/-!
# Containers from the entries of the engine

The engine describes a container by an object. A field that is missing, null or empty counts as not
given, except that a container with an empty list of networks is kept apart from one that has none.

## Implementation notes

Fields are read in a fixed order, so of two faults in an entry the one in the earlier field is reported:
networks, ports, mounts, names, labels, creation time.
-/

namespace TaskEndpoints

/-- Why an entry describes no container. -/
inductive EntryError where
  /-- A value of the given type stands where its fields or text are needed. -/
  | lacks (typeWord access : String)
  /-- A value has no elements, or no entries. -/
  | entries (e : EntriesError)
  | integer (e : IntegerError)
deriving DecidableEq, Repr

/-- The wording of each cause. -/
def EntryError.message : EntryError → String
  | .lacks word access => "'" ++ word ++ "' object has no attribute '" ++ access ++ "'"
  | .entries e => e.message
  | .integer e => e.message

namespace Entry

/-- The fields of an object. -/
def fields (v : Value) : Except EntryError (List (Value × Value)) :=
  match v with
  | .map entries => .ok entries
  | other => .error (.lacks other.longTypeWord "get")

/-- A text that is searched or compared. -/
def text (access : String) (v : Value) : Except EntryError String :=
  match v with
  | .text s => .ok s
  | other => .error (.lacks other.longTypeWord access)

/-- The elements of a field that may be left out. -/
def elements (v : Value) : Except EntryError (List Value) :=
  if v.isTruthy then match v.elements? with
    | some items => .ok items
    | none => .error (.entries (.notIterable v.longTypeWord))
  else .ok []

/-- A field that may be left out and is passed on as it is. -/
def relayed (entry : List (Value × Value)) (name : String) : Value :=
  (Value.fieldOf entry name).orElse (.text "")

/-- An integer field that may be left out. -/
def integer (entry : List (Value × Value)) (name : String) : Except EntryError Int :=
  ((Value.fieldOf entry name).orElse (.int 0)).toInteger.mapError .integer

/-- The attachment that the settings of a network describe. -/
def attachment (settings : Value) : Except EntryError Attachment := do
  let entry ← fields settings
  let aliases ← elements (Value.fieldOf entry "Aliases")
  return ⟨← text "strip" (relayed entry "IPAddress"), ← aliases.mapM (text "strip"),
    relayed entry "GlobalIPv6Address"⟩

/-- A network with its settings; null stands for no settings. -/
def network (e : Value × Value) : Except EntryError (String × Option Attachment) := do
  let settings ← match e.2 with
    | .null => pure none
    | settings => some <$> attachment settings
  return (← text "strip" e.1, settings)

/-- The networks of a container. -/
def networks (entry : List (Value × Value)) :
    Except EntryError (Option (List (String × Option Attachment))) := do
  let settings := Value.fieldOf entry "NetworkSettings"
  let inner ← if settings.isTruthy then fields settings else pure []
  match Value.fieldOf inner "Networks" with
  | .null => return none
  | .map entries => return some (← entries.mapM network)
  | other => throw (.lacks other.longTypeWord "items")

/-- The port that an object describes. -/
def port (v : Value) : Except EntryError Port := do
  let entry ← fields v
  return ⟨← integer entry "PrivatePort", ← integer entry "PublicPort",
    (Value.fieldOf entry "Type").orElse (.text "tcp"), relayed entry "IP"⟩

/-- The mounted volume that an object describes. -/
def mount (v : Value) : Except EntryError Mount := do
  let entry ← fields v
  return ⟨relayed entry "Name", relayed entry "Source", relayed entry "Destination"⟩

/-- The labels of a container. -/
def labels (entry : List (Value × Value)) : Except EntryError (List (Value × Value)) :=
  let v := Value.fieldOf entry "Labels"
  if v.isTruthy then v.toEntries.mapError .entries else .ok []

/-- The identifier of a container, under either of its two names. -/
def identifier (entry : List (Value × Value)) : Except EntryError String :=
  text "startswith" ((Value.fieldOf entry "Id").orElse (relayed entry "ID"))

end Entry

/-- The container that an entry describes. -/
def Container.ofEntry (v : Value) : Except EntryError Container := do
  let entry ← Entry.fields v
  let networks ← Entry.networks entry
  let ports ← (← Entry.elements (Value.fieldOf entry "Ports")).mapM Entry.port
  let mounts ← (← Entry.elements (Value.fieldOf entry "Mounts")).mapM Entry.mount
  let id ← Entry.identifier entry
  let names ← (← Entry.elements (Value.fieldOf entry "Names")).mapM (Entry.text "strip")
  let labels ← Entry.labels entry
  let created ← Entry.integer entry "Created"
  return { id, names, labels, networks, image := Entry.relayed entry "Image",
           imageId := Entry.relayed entry "ImageID", created, ports, mounts }

end TaskEndpoints
