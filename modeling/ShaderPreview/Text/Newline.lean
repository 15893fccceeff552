/-!
# Line Ends

Text files end their lines with a line feed, a carriage return, or both. Reading makes each of the
three a single line feed.

## Main definitions

* `Text.normalizeNewlines`: the text with line feeds only.
-/

namespace ShaderPreview.Text

/-- Every carriage return, alone or before a line feed, becomes one line feed. -/
def normalizeNewlines : List Char → List Char
  | [] => []
  | '\r' :: '\n' :: rest => '\n' :: normalizeNewlines rest
  | c :: rest => (if c = '\r' then '\n' else c) :: normalizeNewlines rest

/-- No carriage return is left. -/
theorem not_mem_normalizeNewlines (s : List Char) : '\r' ∉ normalizeNewlines s := by
  fun_induction normalizeNewlines s with
  | case1 => simp
  | case2 rest ih => simp [ih]
  | case3 c rest _ ih =>
    by_cases h : c = '\r'
    · simp [h, ih]
    · simp [h, ih, Ne.symm h]

end ShaderPreview.Text
