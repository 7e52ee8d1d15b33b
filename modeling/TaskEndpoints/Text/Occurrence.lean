/-!
# Occurrences of one text in another

The main statements say that the tests decide the relations on lists of characters.
-/

namespace TaskEndpoints.Text

/-- Decide whether the second sequence of characters contains the first as a run. -/
def occursIn (part : List Char) : List Char → Bool
  | [] => part.isEmpty
  | c :: rest => part.isPrefixOf (c :: rest) || occursIn part rest

/-- Decide whether a text starts with another. -/
def startsWith (start whole : String) : Bool := start.toList.isPrefixOf whole.toList

/-- Decide whether a text contains another. -/
def contains (part whole : String) : Bool := occursIn part.toList whole.toList

theorem occursIn_iff (part whole : List Char) : occursIn part whole = true ↔ part <:+: whole := by
  induction whole with
  | nil => simp [occursIn]
  | cons c rest ih => rw [occursIn, Bool.or_eq_true, ih, List.isPrefixOf_iff_prefix, List.infix_cons_iff]

theorem startsWith_iff (start whole : String) :
    startsWith start whole = true ↔ start.toList <+: whole.toList :=
  List.isPrefixOf_iff_prefix

theorem contains_iff (part whole : String) :
    contains part whole = true ↔ part.toList <:+: whole.toList :=
  occursIn_iff _ _

end TaskEndpoints.Text
