import Mathlib.Data.List.TakeWhile
import TaskEndpoints.Text.Blank

/-!
# Runs of characters

A run of characters that satisfy a test is read up to the first character that does not. What is left of
a text without the white space at its ends begins and ends with other characters.
-/

namespace TaskEndpoints.Text

variable {test : Char → Bool} {run rest : List Char}

theorem takeWhile_run (h : ∀ c ∈ run, test c = true) (hr : ∀ c ∈ rest.head?, test c = false) :
    (run ++ rest).takeWhile test = run := by
  rw [List.takeWhile_append_of_pos h]
  cases rest with
  | nil => exact List.append_nil run
  | cons c more =>
      have hc : ¬test c = true := Bool.eq_false_iff.mp (hr c rfl)
      rw [List.takeWhile_cons_of_neg hc, List.append_nil]

theorem dropWhile_run (h : ∀ c ∈ run, test c = true) (hr : ∀ c ∈ rest.head?, test c = false) :
    (run ++ rest).dropWhile test = rest := by
  rw [List.dropWhile_append_of_pos h]
  cases rest with
  | nil => rfl
  | cons c more =>
      have hc : ¬test c = true := Bool.eq_false_iff.mp (hr c rfl)
      exact List.dropWhile_cons_of_neg hc

theorem head?_dropWhile (test : Char → Bool) (cs : List Char) :
    ∀ c ∈ (cs.dropWhile test).head?, test c = false := by
  intro c hc
  have h := List.head?_dropWhile_not test cs
  rw [Option.mem_def.mp hc] at h
  exact h

/-- A text is its body with white space around it, and the body has none at its ends. -/
structure TrimsTo (cs body : List Char) : Prop where
  around : ∃ before after, cs = before ++ body ++ after ∧
    (∀ c ∈ before, isBlank c = true) ∧ ∀ c ∈ after, isBlank c = true
  first : ∀ c ∈ body.head?, isBlank c = false
  last : ∀ c ∈ body.getLast?, isBlank c = false

/-- What is dropped at the end is a run at the start of the reversed text. -/
theorem dropEndWhile_append (test : Char → Bool) (cs : List Char) :
    dropEndWhile test cs ++ (cs.reverse.takeWhile test).reverse = cs := by
  calc
    dropEndWhile test cs ++ (cs.reverse.takeWhile test).reverse =
        (cs.reverse.takeWhile test ++ cs.reverse.dropWhile test).reverse := by
      rw [List.reverse_append, dropEndWhile]
    _ = cs := by rw [List.takeWhile_append_dropWhile, List.reverse_reverse]

/-- What is left does not end in a character that satisfies the test. -/
theorem getLast?_dropEndWhile (test : Char → Bool) (cs : List Char) :
    ∀ c ∈ (dropEndWhile test cs).getLast?, test c = false := by
  intro c hc
  rw [dropEndWhile, List.getLast?_reverse] at hc
  exact head?_dropWhile test cs.reverse c hc

/-- A run at the end is dropped up to the last character that does not satisfy the test. -/
theorem dropEndWhile_run (h : ∀ c ∈ run, test c = true) (hr : ∀ c ∈ rest.getLast?, test c = false) :
    dropEndWhile test (rest ++ run) = rest := by
  have hrun : ∀ c ∈ run.reverse, test c = true := fun c hc => h c (List.mem_reverse.mp hc)
  have hrest : ∀ c ∈ rest.reverse.head?, test c = false := by
    rw [List.head?_reverse]
    exact hr
  rw [dropEndWhile, List.reverse_append, dropWhile_run hrun hrest, List.reverse_reverse]

/-- A text is what is left without the runs at its ends, with these runs around it. -/
theorem exists_runs_around (test : Char → Bool) (cs : List Char) :
    ∃ before after, cs = before ++ dropBothWhile test cs ++ after ∧
      (∀ c ∈ before, test c = true) ∧ ∀ c ∈ after, test c = true := by
  refine ⟨cs.takeWhile test, ((cs.dropWhile test).reverse.takeWhile test).reverse, ?_, ?_, ?_⟩
  · rw [dropBothWhile, List.append_assoc, dropEndWhile_append, List.takeWhile_append_dropWhile]
  · intro c hc
    exact List.mem_takeWhile_imp hc
  · intro c hc
    exact List.mem_takeWhile_imp (List.mem_reverse.mp hc)

theorem head?_dropBothWhile (test : Char → Bool) (cs : List Char) :
    ∀ c ∈ (dropBothWhile test cs).head?, test c = false := by
  intro c hc
  apply head?_dropWhile test cs c
  have hhead : (dropEndWhile test (cs.dropWhile test)).head? = some c := hc
  rw [← dropEndWhile_append test (cs.dropWhile test), List.head?_append, hhead]
  rfl

theorem trimsTo_trimBlank (cs : List Char) : TrimsTo cs (trimBlank cs) where
  around := exists_runs_around isBlank cs
  first := head?_dropBothWhile isBlank cs
  last := getLast?_dropEndWhile isBlank (cs.dropWhile isBlank)

/-- No other body is left. -/
theorem TrimsTo.trimBlank_eq {cs body : List Char} (h : TrimsTo cs body) : trimBlank cs = body := by
  obtain ⟨before, after, rfl, hbefore, hafter⟩ := h.around
  rw [trimBlank, dropBothWhile, List.append_assoc]
  cases hbody : body with
  | nil =>
      have hall : ∀ c ∈ before ++ after, isBlank c = true :=
        List.forall_mem_append.mpr ⟨hbefore, hafter⟩
      rw [List.nil_append, List.dropWhile_eq_nil_iff.mpr hall]
      rfl
  | cons c more =>
      rw [← hbody]
      have hfirst : ∀ c ∈ (body ++ after).head?, isBlank c = false := by
        rw [hbody]
        intro c' hc'
        apply h.first
        rw [hbody]
        exact hc'
      rw [dropWhile_run hbefore hfirst, dropEndWhile_run hafter h.last]

end TaskEndpoints.Text
