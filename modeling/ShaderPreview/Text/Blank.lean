import ShaderPreview.Text.Ranges

/-!
# Blanks

A **blank** is a white-space character of the Unicode standard: the ASCII controls that move the
cursor, the four information separators, the next-line control and every space and line or
paragraph separator. Trimming a text takes the blanks off one end or both.

## Main definitions

* `Text.isBlank`: the class.
* `Text.trimStart`, `Text.trimEnd`, `Text.trim`: a text without the blanks at its ends.

## Main results

* `Text.isBlank_of_isWhitespace`: what the ASCII classes call white space is blank.
-/

namespace ShaderPreview.Text

/-- The **ranges of blanks**, ascending, both ends included. -/
def blankRanges : List (Nat × Nat) := [
  (9, 13), (28, 32), (133, 133), (160, 160), (5760, 5760), (8192, 8202), (8232, 8233), (8239, 8239),
  (8287, 8287), (12288, 12288)]

/-- White space. -/
def isBlank (c : Char) : Bool := inRanges blankRanges c.toNat

/-- A text without the blanks at its start. -/
def trimStart (s : List Char) : List Char := s.dropWhile isBlank

/-- A text without the blanks at its end. -/
def trimEnd (s : List Char) : List Char := (s.reverse.dropWhile isBlank).reverse

/-- A text without the blanks at both ends. -/
def trim (s : List Char) : List Char := trimEnd (trimStart s)

/-- The ASCII white space is blank. -/
theorem isBlank_of_isWhitespace {c : Char} (h : c.isWhitespace = true) : isBlank c = true := by
  simp only [Char.isWhitespace, Bool.or_eq_true, decide_eq_true_eq] at h
  rcases h with ((h | h) | h) | h <;> subst h <;> decide

end ShaderPreview.Text
