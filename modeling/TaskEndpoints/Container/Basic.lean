import TaskEndpoints.Text.Blank
import TaskEndpoints.Value.Basic

/-!
# Containers

A container as the engine lists it. Identifiers, names and addresses are texts, because callers are
found by them; what is only passed on keeps the value that the engine gave.

## Implementation notes

Labels and networks are entry lists in the order of the engine. The order of these two carries no
meaning: `Container.Same` is equality up to it.
-/

namespace TaskEndpoints

/-- The connection of a container to a network. -/
structure Attachment where
  /-- The address of the container in the network. -/
  address : String
  /-- Further names of the container in the network. -/
  aliases : List String
  /-- The address of the sixth version. -/
  address6 : Value
deriving DecidableEq

/-- A port of a container. -/
structure Port where
  inner : Int
  /-- The port outside; zero means none. -/
  outer : Int
  protocol : Value
  /-- The address on which the port is open. -/
  address : Value
deriving DecidableEq

/-- A mounted volume. -/
structure Mount where
  name : Value
  source : Value
  destination : Value
deriving DecidableEq

/-- A container at the time of a request. -/
structure Container where
  id : String
  names : List String
  labels : List (Value × Value)
  /-- The networks, some without settings; `none` where the engine tells nothing about networks. -/
  networks : Option (List (String × Option Attachment))
  image : Value
  imageId : Value
  /-- The creation time in seconds from the Unix epoch. -/
  created : Int
  ports : List Port
  mounts : List Mount
deriving DecidableEq

/-- The label that names the project of a container. -/
def projectLabel : String := "com.docker.compose.project"

namespace Container

/-- The project of a container; the empty text means none. -/
def project (c : Container) : Value := (Value.fieldOf c.labels projectLabel).orElse (.text "")

/-- The first name without the slashes at its ends. -/
def displayName (c : Container) : String :=
  match c.names with
  | [] => ""
  | name :: _ => String.ofList (Text.dropBothWhile (· == '/') name.toList)

/-- The networks that have settings. -/
def attachments (c : Container) : List (String × Attachment) :=
  (c.networks.getD []).filterMap fun (name, settings?) => settings?.map fun a => (name, a)

/-- What the containers of a set are told apart by at first: all but labels and networks. -/
def digest (c : Container) : Container := { c with labels := [], networks := none }

/-- Equality up to the order of labels and networks. -/
def Same (a b : Container) : Prop :=
  a.digest = b.digest ∧ a.labels.Perm b.labels ∧ match a.networks, b.networks with
    | none, none => True
    | some xs, some ys => xs.Perm ys
    | _, _ => False

instance (a b : Container) : Decidable (Same a b) := by
  unfold Same
  have : Decidable (match a.networks, b.networks with
    | none, none => True
    | some xs, some ys => xs.Perm ys
    | _, _ => False) := by split <;> infer_instance
  infer_instance

theorem Same.id_eq {a b : Container} (h : Same a b) : a.id = b.id := by
  have hid := congrArg Container.id h.1
  exact hid

theorem Same.names_eq {a b : Container} (h : Same a b) : a.names = b.names := by
  have hnames := congrArg Container.names h.1
  exact hnames

theorem Same.networks_rel {a b : Container} (h : Same a b) :
    Option.Rel List.Perm a.networks b.networks := by
  obtain ⟨-, -, hn⟩ := h
  split at hn
  · rename_i ha hb
    rw [ha, hb]
    exact .none
  · rename_i ha hb
    rw [ha, hb]
    exact .some hn
  · exact hn.elim

theorem Same.refl (a : Container) : Same a a := by
  refine ⟨rfl, .refl _, ?_⟩
  cases a.networks <;> simp

theorem attachments_of_none {c : Container} (h : c.networks = none) : c.attachments = [] := by
  simp [attachments, h]

end Container

end TaskEndpoints
