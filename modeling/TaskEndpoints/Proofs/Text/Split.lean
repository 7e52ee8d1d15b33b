import TaskEndpoints.Text.Split

/-!
# Pieces that were joined

Splitting is the splitting of lists at an element. No piece holds the separator, and pieces without it
come back from the text that they were joined to.
-/

namespace TaskEndpoints.Text

theorem splitAtEvery_eq_splitOn (separator : Char) (cs : List Char) :
    splitAtEvery separator cs = cs.splitOn separator := by
  induction cs with
  | nil => rfl
  | cons c rest ih =>
      rw [splitAtEvery, ih, List.splitOn_eq_splitOnP, List.splitOn_eq_splitOnP,
        List.splitOnP_cons_eq_if_modifyHead]
      simp only [beq_iff_eq]
      split
      · rfl
      · cases hp : List.splitOnP (· == separator) rest with
        | nil => exact absurd hp (List.splitOnP_ne_nil _ _)
        | cons piece pieces => rfl

/-- The separator is in no piece. -/
theorem not_mem_of_mem_splitAtEvery {separator : Char} {cs : List Char} :
    ∀ piece ∈ splitAtEvery separator cs, separator ∉ piece := by
  induction cs with
  | nil => exact List.forall_mem_singleton.mpr List.not_mem_nil
  | cons c rest ih =>
      rw [splitAtEvery]
      split
      · exact List.forall_mem_cons.mpr ⟨List.not_mem_nil, ih⟩
      · rename_i hc
        cases hs : splitAtEvery separator rest with
        | nil => exact absurd hs (splitAtEvery_ne_nil separator rest)
        | cons piece pieces =>
            rw [hs] at ih
            obtain ⟨hpiece, hpieces⟩ := List.forall_mem_cons.mp ih
            refine List.forall_mem_cons.mpr ⟨?_, hpieces⟩
            rw [List.mem_cons, not_or]
            exact ⟨Ne.symm hc, hpiece⟩

/-- Pieces without the separator are the pieces of what they are joined to. -/
theorem splitAtEvery_intercalate {separator : Char} {pieces : List (List Char)}
    (h : ∀ piece ∈ pieces, separator ∉ piece) (hne : pieces ≠ []) :
    splitAtEvery separator ([separator].intercalate pieces) = pieces := by
  rw [splitAtEvery_eq_splitOn]
  exact List.splitOn_intercalate separator h hne

/-- A separator parts the pieces before it from those behind it. -/
theorem splitAtEvery_append_cons (separator : Char) (before after : List Char) :
    splitAtEvery separator (before ++ separator :: after) =
      splitAtEvery separator before ++ splitAtEvery separator after := by
  rw [splitAtEvery_eq_splitOn, splitAtEvery_eq_splitOn, splitAtEvery_eq_splitOn]
  exact List.splitOn_append_cons_self before after

/-- A text without the separator is one piece. -/
theorem splitAtEvery_of_not_mem {separator : Char} {cs : List Char} (h : separator ∉ cs) :
    splitAtEvery separator cs = [cs] := by
  rw [splitAtEvery_eq_splitOn]
  exact List.splitOn_eq_singleton h

end TaskEndpoints.Text
