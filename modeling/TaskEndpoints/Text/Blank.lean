import TaskEndpoints.Text.Ranges

/-!
# White space

The white space of the Unicode standard, together with the four information separators U+001C to
U+001F, and the removal of it at both ends of a text.
-/

namespace TaskEndpoints.Text

/-- The ranges of white space. -/
def blankRanges : List (Nat × Nat) := [
  (0x9, 0xd), (0x1c, 0x20), (0x85, 0x85), (0xa0, 0xa0), (0x1680, 0x1680),
  (0x2000, 0x200a), (0x2028, 0x2029), (0x202f, 0x202f), (0x205f, 0x205f), (0x3000, 0x3000)]

/-- Decide whether a character is white space. -/
def isBlank (c : Char) : Bool :=
  inRanges blankRanges c.toNat

/-- Remove the longest run at the end whose characters all satisfy the test. -/
def dropEndWhile (test : Char → Bool) (cs : List Char) : List Char :=
  (cs.reverse.dropWhile test).reverse

/-- Remove the runs at both ends whose characters all satisfy the test. -/
def dropBothWhile (test : Char → Bool) (cs : List Char) : List Char :=
  dropEndWhile test (cs.dropWhile test)

/-- Remove white space at both ends. -/
def trimBlank (cs : List Char) : List Char :=
  dropBothWhile isBlank cs

@[simp] theorem dropEndWhile_nil (test : Char → Bool) : dropEndWhile test [] = [] := rfl

@[simp] theorem trimBlank_nil : trimBlank [] = [] := rfl

theorem isBlank_space : isBlank ' ' = true := by decide

end TaskEndpoints.Text
