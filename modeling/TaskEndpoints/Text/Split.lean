/-!
# Splitting texts

A text is split at every occurrence of a separator; the pieces, joined by the separator, give the text
again.
-/

namespace TaskEndpoints.Text

/-- Split a text at every occurrence of a character. -/
def splitAtEvery (separator : Char) : List Char → List (List Char)
  | [] => [[]]
  | c :: rest =>
    if c = separator then [] :: splitAtEvery separator rest
    else match splitAtEvery separator rest with
      | [] => [[c]]
      | piece :: pieces => (c :: piece) :: pieces

theorem splitAtEvery_ne_nil (separator : Char) (cs : List Char) : splitAtEvery separator cs ≠ [] := by
  cases cs with
  | nil => simp [splitAtEvery]
  | cons c rest =>
    unfold splitAtEvery
    split
    · simp
    · split <;> simp

/-- Joining the pieces gives the text. -/
theorem intercalate_splitAtEvery (separator : Char) (cs : List Char) :
    [separator].intercalate (splitAtEvery separator cs) = cs := by
  induction cs with
  | nil => simp [splitAtEvery, List.intercalate]
  | cons c rest ih =>
    unfold splitAtEvery
    split
    · rename_i h
      subst h
      cases hs : splitAtEvery c rest with
      | nil => exact absurd hs (splitAtEvery_ne_nil c rest)
      | cons piece pieces =>
        rw [hs] at ih
        simpa [List.intercalate, List.intersperse] using ih
    · cases hs : splitAtEvery separator rest with
      | nil => exact absurd hs (splitAtEvery_ne_nil separator rest)
      | cons piece pieces =>
        rw [hs] at ih
        cases pieces <;> simpa [List.intercalate, List.intersperse] using ih

end TaskEndpoints.Text
