import ShaderPreview.Text.Blank

/-!
# Searching and Eating

Two ways of looking at a text from its start. **Searching** cuts a text at the leftmost occurrence
of a literal; **eating** takes a literal, a run of blanks or one of several words off the front and
gives what is left. Both are total and look at each character once per start.

## Main definitions

* `Text.cut?`: what stands before and after the leftmost occurrence of a literal.
* `Text.contains`: whether a literal occurs.
* `Text.splitLine`: the first line and what follows its line feed.
* `Text.joinLines`: lines put together with line feeds between them.
* `Text.eat`, `Text.eatBlanks`, `Text.eatOne`: take something off the front.
-/

namespace ShaderPreview.Text

/-- The text before and the text after the **leftmost occurrence** of a literal. -/
def cut? (literal : List Char) : List Char → Option (List Char × List Char)
  | [] => if literal.isEmpty then some ([], []) else none
  | c :: rest =>
    if literal.isPrefixOf (c :: rest) then some ([], (c :: rest).drop literal.length)
    else (cut? literal rest).map fun (before, after) => (c :: before, after)

/-- Whether a literal occurs anywhere in a text. -/
def contains (literal s : List Char) : Bool := (cut? literal s).isSome

/-- The **first line** of a text, and what follows its line feed. -/
def splitLine (s : List Char) : List Char × List Char :=
  (s.takeWhile (· != '\n'), (s.dropWhile (· != '\n')).drop 1)

/-- Lines put together with a line feed between each two. -/
def joinLines (lines : List (List Char)) : List Char := ['\n'].intercalate lines

/-- Takes a literal off the front. -/
def eat (literal s : List Char) : Option (List Char) :=
  if literal.isPrefixOf s then some (s.drop literal.length) else none

/-- Takes the longest run of blanks off the front; there has to be at least one. -/
def eatBlanks : List Char → Option (List Char)
  | [] => none
  | c :: rest => if isBlank c then some (trimStart rest) else none

/-- Takes the first of several words that fits off the front. -/
def eatOne (words : List (List Char)) (s : List Char) : Option (List Char) :=
  words.findSome? (eat · s)

/-- A literal that occurs gives back the text when it is put between the two parts. -/
theorem append_of_cut? {literal s before after : List Char}
    (h : cut? literal s = some (before, after)) : s = before ++ literal ++ after := by
  induction s generalizing before after with
  | nil =>
    simp only [cut?, List.isEmpty_iff] at h
    split at h <;> simp_all
  | cons c rest ih =>
    rw [cut?] at h
    split at h
    case isTrue hp =>
      obtain ⟨t, ht⟩ : literal <+: c :: rest := by simpa using hp
      simp only [Option.some.injEq, Prod.mk.injEq] at h
      obtain ⟨rfl, rfl⟩ := h
      simp [← ht]
    case isFalse =>
      obtain ⟨p, hp, he⟩ := Option.map_eq_some_iff.mp h
      obtain ⟨rfl, rfl⟩ := Prod.mk.inj he
      simp [ih hp]

end ShaderPreview.Text
