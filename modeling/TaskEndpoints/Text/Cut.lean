/-!
# Cutting texts

A cut keeps characters at the start of a text. A negative length counts from the end.
-/

namespace TaskEndpoints.Text

/-- The number of characters that a cut to the given length keeps of a text with `size` characters. -/
def keptBy (length : Int) (size : Nat) : Nat :=
  if 0 ≤ length then min length.toNat size else size - length.natAbs

/-- Cut a text to the given length. -/
def cut (length : Int) (s : String) : String :=
  let cs := s.toList
  String.ofList (cs.take (keptBy length cs.length))

theorem cut_toList_prefix (length : Int) (s : String) : (cut length s).toList <+: s.toList := by
  simp [cut, List.take_prefix]

theorem length_cut (length : Int) (s : String) : (cut length s).length = keptBy length s.length := by
  have h : keptBy length s.length ≤ s.length := by unfold keptBy; split <;> omega
  simp only [cut, String.length_ofList, List.length_take, String.length_toList]
  exact Nat.min_eq_left h

end TaskEndpoints.Text
