import TaskEndpoints.Container.Basic
import TaskEndpoints.Journal
import TaskEndpoints.Text.Occurrence

/-!
# The caller

A request comes from one of the running containers. It is looked for by the identifier in the request,
by the address that the request came from, and by the networks of the container in which the service
runs. The first two steps are taken only if there is something to look for, and each of them keeps all
candidates if it would keep none. The last step may leave no candidate.

A choice is never made: the search succeeds only where a step leaves one candidate.

## Implementation notes

Candidates are containers with their positions in the list of the engine, so that a container which is
listed twice counts twice.
-/

namespace TaskEndpoints

/-- A container with its position in a list. -/
abbrev Listed := Container × Nat

/-- What is known about a caller; an empty text means that nothing is known. -/
structure CallerQuery where
  identifier : String
  /-- The address that the request came from. -/
  address : String
  /-- The start of the identifier of the container in which the service runs. -/
  ownId : String
deriving DecidableEq, Repr

/-- No single container can be the caller. -/
structure CallerNotFound where
  /-- The number of candidates left. -/
  remaining : Nat
  identifier : String
  /-- The address that the request came from. -/
  address : String
deriving DecidableEq, Repr

/-- The wording of a failed search. -/
def CallerNotFound.message (e : CallerNotFound) : String :=
  "Failed to find the container which the request came from. Narrowed down search to "
    ++ toString e.remaining ++ " containers"

namespace Container

/-- The identifier starts with the given text, or a name contains it. -/
def answersTo (identifier : String) (c : Container) : Bool :=
  Text.startsWith identifier c.id || c.names.any (Text.contains identifier)

/-- Some attachment has the given address. -/
def hasAddress (address : String) (c : Container) : Bool :=
  c.attachments.any fun (_, a) => a.address == address

/-- The names under which the networks of a container are known. -/
def networkNames (c : Container) : List String :=
  c.attachments.flatMap fun (name, a) => name :: a.aliases

/-- Some attachment has the given address in one of the named networks. -/
def reachedThrough (names : List String) (address : String) (c : Container) : Bool :=
  c.attachments.any fun (name, a) =>
    (name :: a.aliases).any names.contains && a.address == address

/-- The first container whose identifier starts with a text that is not empty. -/
def own? (snapshot : List Container) (ownId : String) : Option Container :=
  if ownId.isEmpty then none else snapshot.find? fun c => Text.startsWith ownId c.id

end Container

/-- The elements that pass a test, or all of them if none does. -/
def keepMatching {α : Type} (test : α → Bool) (xs : List α) : List α :=
  if xs.any test then xs.filter test else xs

/-- The only element of a list. -/
def only? {α : Type} : List α → Option α
  | [a] => some a
  | _ => none

theorem keepMatching_eq_nil_iff {α : Type} (test : α → Bool) (xs : List α) :
    keepMatching test xs = [] ↔ xs = [] := by
  unfold keepMatching
  split
  · rename_i h
    constructor
    · intro hn
      obtain ⟨a, ha, ht⟩ := List.any_eq_true.1 h
      have : a ∈ xs.filter test := List.mem_filter.2 ⟨ha, ht⟩
      simp [hn] at this
    · rintro rfl; rfl
  · rfl

theorem keepMatching_sublist {α : Type} (test : α → Bool) (xs : List α) :
    (keepMatching test xs).Sublist xs := by
  unfold keepMatching
  split
  · exact List.filter_sublist
  · exact .refl _

theorem only?_eq_some_iff {α : Type} {xs : List α} {a : α} : only? xs = some a ↔ xs = [a] := by
  rcases xs with _ | ⟨b, _ | ⟨c, rest⟩⟩ <;> simp [only?]

namespace CallerQuery

/-- The candidates with the identifier of the request. -/
def byIdentifier (identifier : String) (candidates : List Listed) : List Listed :=
  keepMatching (fun c => c.1.answersTo identifier) candidates

/-- The candidates with the address of the request. -/
def byAddress (address : String) (candidates : List Listed) : List Listed :=
  keepMatching (fun c => c.1.hasAddress address) candidates

/-- The candidates that a request could have come from through the networks of the container in which
the service runs. They stay as they are if that container is unknown or has no networks. -/
def byOwnNetworks {ε : Type} (snapshot : List Container) (address ownId : String)
    (candidates : List Listed) : Run ε (List Listed) :=
  match (Container.own? snapshot ownId).filter (·.networks.isSome) with
  | none => do
    Run.log .caller .warning "Failed to find endpoints container among running containers"
    return candidates
  | some own => return candidates.filter fun c => c.1.reachedThrough own.networkNames address

/-- The candidates after the first step. -/
def afterIdentifier (q : CallerQuery) (snapshot : List Container) : List Listed :=
  if q.identifier.isEmpty then snapshot.zipIdx else byIdentifier q.identifier snapshot.zipIdx

/-- The candidates after the second step. -/
def afterAddress (q : CallerQuery) (snapshot : List Container) : List Listed :=
  if q.address.isEmpty then q.afterIdentifier snapshot
  else byAddress q.address (q.afterIdentifier snapshot)

/-- The candidate that the identifier or the address alone decides, and the word for what decided. -/
def decided? (q : CallerQuery) (snapshot : List Container) : Option (Listed × String) :=
  let first := if q.identifier.isEmpty then none else only? (q.afterIdentifier snapshot)
  let second := if q.address.isEmpty then none else only? (q.afterAddress snapshot)
  (first.map (·, "identifier")).or (second.map (·, "caller IP"))

/-- The caller with what decided for it, if there is one. -/
def identify (q : CallerQuery) (snapshot : List Container) : Run CallerNotFound (Listed × String) := do
  match q.decided? snapshot with
  | some found => return found
  | none =>
    let third ← byOwnNetworks snapshot q.address q.ownId (q.afterAddress snapshot)
    match only? third with
    | some caller => return (caller, "endpoint networks")
    | none => Run.fail ⟨third.length, q.identifier, q.address⟩

/-- The caller with its position, if there is exactly one candidate for it. -/
def find (q : CallerQuery) (snapshot : List Container) : Run CallerNotFound Listed := do
  let (caller, reason) ← q.identify snapshot
  Run.log .caller .debug ("Caller container " ++ caller.1.id ++ " found by " ++ reason)
  return caller

end CallerQuery

end TaskEndpoints
