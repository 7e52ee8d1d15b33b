import TaskEndpoints.Proofs.Container.KeyOrder
import TaskEndpoints.Proofs.Text.Runs

/-!
# What well-typed entries contain

The lists and maps of a well-typed entry are read as they are: a container has one port for each item of
its list of ports, and so on, in the order of the entry. Its name is the first one of the entry without the
slashes around it.

## Implementation notes

What an entry contains is stated without the reader, by looking at its fields. A field that is missing or
null contains nothing.
-/

namespace TaskEndpoints

open Value

namespace Entry

/-- The items of a list; other values have none. -/
def itemsOf (v : Value) : List Value :=
  match v with
  | .list items => items
  | _ => []

/-- A text is its body with slashes around it, and the body has none at its ends. -/
structure IsWithinSlashes (text body : String) : Prop where
  around : ∃ m n, text.toList = List.replicate m '/' ++ body.toList ++ List.replicate n '/'
  first : body.toList.head? ≠ some '/'
  last : body.toList.getLast? ≠ some '/'

/-- What a container is called: its first name without slashes, and the empty text if it has no name. -/
def IsCalled (names : List Value) (name : String) : Prop :=
  names = [] ∧ name = "" ∨
    ∃ text others, names = .text text :: others ∧ IsWithinSlashes text name

variable {entry : Fields} {name access : String} {form : Value → Prop} {v : Value} {n : Int}

/-! ### Fields of a form -/

theorem elements_of_list (h : IsNullOr (IsListOf form) v) :
    elements v = .ok (itemsOf v) ∧ ∀ item ∈ itemsOf v, form item := by
  rcases h with rfl | ⟨items, rfl, hitems⟩
  · exact ⟨rfl, fun item hm => absurd hm List.not_mem_nil⟩
  · exact ⟨elements_list items, hitems⟩

theorem labels_eq_entriesOf (h : Offers "Labels" (IsMapOf IsAnyText IsAnyText) entry) :
    labels entry = .ok (entriesOf (fieldOf entry "Labels")) := by
  rcases h with h | ⟨entries, h, -⟩
  · rw [labels, h]
    rfl
  · rw [labels_of_map h, h]
    rfl

theorem orElse_of_integer (ht : Offers name IsInteger entry) (h : integer entry name = .ok n) :
    (fieldOf entry name).orElse (.int 0) = .int n := by
  obtain ⟨m, hm⟩ : ((fieldOf entry name).orElse (.int 0)).IsInteger := orElse_of_offers ht ⟨0, rfl⟩
  rw [integer, hm] at h
  rw [hm, Except.ok.inj h]

theorem eq_map_of_fields (h : fields v = .ok entry) : v = .map entry := by
  cases v with
  | map entries => rw [Except.ok.inj h]
  | _ => cases h

/-! ### Parts of a container -/

theorem of_attachment {a : Attachment} (h : attachment v = .ok a) :
    relayed (entriesOf v) "IPAddress" = .text a.address ∧
      relayed (entriesOf v) "GlobalIPv6Address" = a.address6 := by
  obtain ⟨entry, hentry, h⟩ := bind_eq_ok_iff.mp h
  obtain ⟨items, -, h⟩ := bind_eq_ok_iff.mp h
  obtain ⟨address, haddress, h⟩ := bind_eq_ok_iff.mp h
  obtain ⟨aliases, -, h⟩ := bind_eq_ok_iff.mp h
  obtain rfl := Except.ok.inj h
  obtain rfl := eq_map_of_fields hentry
  exact ⟨eq_of_text_eq_ok haddress, rfl⟩

theorem of_port {p : Port} (ht : IsPort v) (h : port v = .ok p) :
    (fieldOf (entriesOf v) "PrivatePort").orElse (.int 0) = .int p.inner ∧
      (fieldOf (entriesOf v) "PublicPort").orElse (.int 0) = .int p.outer ∧
      (fieldOf (entriesOf v) "Type").orElse (.text "tcp") = p.protocol := by
  obtain ⟨entry, rfl, hinner, houter, -, -⟩ := ht
  obtain ⟨fields, hfields, h⟩ := bind_eq_ok_iff.mp h
  obtain rfl := Except.ok.inj hfields
  obtain ⟨inner, hi, h⟩ := bind_eq_ok_iff.mp h
  obtain ⟨outer, ho, h⟩ := bind_eq_ok_iff.mp h
  obtain rfl := Except.ok.inj h
  exact ⟨orElse_of_integer hinner hi, orElse_of_integer houter ho, rfl⟩

theorem of_mount {m : Mount} (h : mount v = .ok m) :
    relayed (entriesOf v) "Name" = m.name ∧ relayed (entriesOf v) "Source" = m.source ∧
      relayed (entriesOf v) "Destination" = m.destination := by
  obtain ⟨entry, hentry, h⟩ := bind_eq_ok_iff.mp h
  obtain rfl := Except.ok.inj h
  obtain rfl := eq_map_of_fields hentry
  exact ⟨rfl, rfl, rfl⟩

/-! ### Names -/

theorem isWithinSlashes_strip (text : String) :
    IsWithinSlashes text (String.ofList (Text.dropBothWhile (· == '/') text.toList)) where
  around := by
    obtain ⟨before, after, htext, hbefore, hafter⟩ := Text.exists_runs_around (· == '/') text.toList
    refine ⟨before.length, after.length, ?_⟩
    rw [← List.eq_replicate_of_mem fun c hc => beq_iff_eq.mp (hbefore c hc),
      ← List.eq_replicate_of_mem fun c hc => beq_iff_eq.mp (hafter c hc), String.toList_ofList, ← htext]
  first := by
    intro h
    rw [String.toList_ofList] at h
    exact absurd (Text.head?_dropBothWhile _ _ _ h) (by decide)
  last := by
    intro h
    rw [String.toList_ofList] at h
    exact absurd (Text.getLast?_dropEndWhile _ _ _ h) (by decide)

theorem isCalled_displayName {c : Container} {items : List Value}
    (h : items.mapM (text access) = .ok c.names) : IsCalled items c.displayName := by
  rw [Container.displayName]
  generalize c.names = names at h
  cases forall₂_of_mapM h with
  | nil => exact Or.inl ⟨rfl, rfl⟩
  | @cons item _ rest _ hitem hrest =>
      obtain rfl := eq_of_text_eq_ok hitem
      exact Or.inr ⟨_, rest, rfl, isWithinSlashes_strip _⟩

end Entry

end TaskEndpoints
