import Mathlib.Data.List.DropRight
import Mathlib.Data.List.TakeWhile
import ShaderPreview.Text.Blank

/-!
# Trimmed Texts

A text is **flush** at an end when no blank stands there. Trimming an end makes it flush, leaves a
flush end alone, and takes nothing away from the other end, so that a text can be taken apart and
put together again without being trimmed anew.

## Main results

* `Text.trim_eq_self`: trimming leaves a text alone that is flush at both ends.
* `Text.flushStart_trim`, `Text.flushEnd_trim`: a trimmed text is flush at both ends.
* `Text.FlushStart.of_isPrefix`, `Text.FlushEnd.of_isSuffix`: a part that keeps an end keeps it
  flush.
-/

namespace ShaderPreview.Text

variable {s t u : List Char} {c : Char}

/-- No blank stands at the **start** of a text. -/
def FlushStart (s : List Char) : Prop := ∀ c ∈ s.head?, isBlank c = false

/-- No blank stands at the **end** of a text. -/
def FlushEnd (s : List Char) : Prop := ∀ c ∈ s.getLast?, isBlank c = false

/-! ### Flush ends -/

/-- What a text starts with decides whether it starts with a blank. -/
theorem flushStart_cons : FlushStart (c :: s) ↔ isBlank c = false := by
  simp [FlushStart]

/-- What a text ends with decides whether it ends with one. -/
theorem flushEnd_concat : FlushEnd (s ++ [c]) ↔ isBlank c = false := by
  simp [FlushEnd]

theorem flushStart_nil : FlushStart [] := by simp [FlushStart]

theorem flushEnd_nil : FlushEnd [] := by simp [FlushEnd]

/-- What is put behind a text does not change how it starts. -/
theorem flushStart_append (h : s ≠ []) : FlushStart (s ++ t) ↔ FlushStart s := by
  obtain ⟨c, s, rfl⟩ := List.exists_cons_of_ne_nil h
  rw [List.cons_append, flushStart_cons, flushStart_cons]

/-- What is put before a text does not change how it ends. -/
theorem flushEnd_append (h : t ≠ []) : FlushEnd (s ++ t) ↔ FlushEnd t := by
  rw [FlushEnd, FlushEnd, List.getLast?_append_of_ne_nil _ h]

/-- A part **that keeps the start** of a flush text is flush. -/
theorem FlushStart.of_isPrefix (h : FlushStart t) (hp : s <+: t) : FlushStart s := by
  obtain ⟨u, rfl⟩ := hp
  by_cases hs : s = []
  · rw [hs]
    exact flushStart_nil
  · exact (flushStart_append hs).mp h

/-- A part **that keeps the end** of a flush text is flush. -/
theorem FlushEnd.of_isSuffix (h : FlushEnd t) (hs : s <:+ t) : FlushEnd s := by
  obtain ⟨u, rfl⟩ := hs
  by_cases hs : s = []
  · rw [hs]
    exact flushEnd_nil
  · exact (flushEnd_append hs).mp h

/-! ### Trimming -/

/-- A text trimmed at its start does not start with a blank. -/
theorem flushStart_trimStart (s : List Char) : FlushStart (trimStart s) := by
  intro c hc
  have h := List.head?_dropWhile_not isBlank s
  rw [show s.dropWhile isBlank = trimStart s from rfl, Option.mem_def.mp hc] at h
  simpa using h

/-- Trimming at the end is dropping blanks from the right. -/
theorem trimEnd_eq_rdropWhile (s : List Char) : trimEnd s = s.rdropWhile isBlank := rfl

/-- A text trimmed at its end does not end with a blank. -/
theorem flushEnd_trimEnd (s : List Char) : FlushEnd (trimEnd s) := by
  intro c hc
  obtain ⟨hne, rfl⟩ := List.mem_getLast?_eq_getLast hc
  exact Bool.eq_false_iff.mpr (List.rdropWhile_last_not isBlank s hne)

/-- A text that does not start with a blank is left as it is. -/
theorem trimStart_eq_self (h : FlushStart s) : trimStart s = s := by
  cases s with
  | nil => rfl
  | cons c s => rw [trimStart, List.dropWhile_cons_of_neg]; simpa using flushStart_cons.mp h

/-- A text that does not end with a blank is left as it is. -/
theorem trimEnd_eq_self (h : FlushEnd s) : trimEnd s = s := by
  rw [trimEnd_eq_rdropWhile, List.rdropWhile_eq_self_iff]
  intro hs
  rw [h _ (List.getLast_mem_getLast? hs)]
  exact Bool.false_ne_true

/-- A text trimmed at its start is a suffix of it. -/
theorem trimStart_isSuffix (s : List Char) : trimStart s <:+ s := List.dropWhile_suffix isBlank

/-- A text trimmed at its end is a prefix of it. -/
theorem trimEnd_isPrefix (s : List Char) : trimEnd s <+: s := List.rdropWhile_prefix isBlank s

/-- A flush prefix survives the trimming of the end. -/
theorem isPrefix_trimEnd_append (h : FlushEnd s) : s <+: trimEnd (s ++ t) := by
  induction t using List.reverseRecOn with
  | nil =>
    have hs : trimEnd (s ++ []) = s := by rw [List.append_nil, trimEnd_eq_self h]
    exact hs.symm ▸ List.prefix_rfl
  | append_singleton t c ih =>
    rw [trimEnd_eq_rdropWhile, ← List.append_assoc, List.rdropWhile_concat]
    split
    · exact ih
    · exact (List.prefix_append s t).trans (List.prefix_append _ [c])

/-- A trimmed text is flush at its **start**. -/
theorem flushStart_trim (s : List Char) : FlushStart (trim s) :=
  (flushStart_trimStart s).of_isPrefix (trimEnd_isPrefix _)

/-- A trimmed text is flush at its **end**. -/
theorem flushEnd_trim (s : List Char) : FlushEnd (trim s) := flushEnd_trimEnd _

/-- Trimming **leaves alone** what is flush at both ends. -/
theorem trim_eq_self (hs : FlushStart s) (he : FlushEnd s) : trim s = s := by
  rw [trim, trimStart_eq_self hs, trimEnd_eq_self he]

/-- Blanks in front of a text that starts flush are what trimming takes away. -/
theorem trimStart_append (hb : ∀ c ∈ s, isBlank c = true) (ht : FlushStart t) :
    trimStart (s ++ t) = t := by
  rw [trimStart, List.dropWhile_append_of_pos hb]
  exact trimStart_eq_self ht

/-- A text is the blanks at its start and the rest. -/
theorem exists_blanks_append_trimStart (s : List Char) :
    ∃ blanks, (∀ c ∈ blanks, isBlank c = true) ∧ s = blanks ++ trimStart s :=
  ⟨s.takeWhile isBlank, fun _ hc => (List.mem_takeWhile_imp hc),
    (List.takeWhile_append_dropWhile).symm⟩

end ShaderPreview.Text
