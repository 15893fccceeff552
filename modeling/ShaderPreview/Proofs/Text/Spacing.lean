import Mathlib.Data.Option.Defs
import ShaderPreview.Proofs.Text.Searching
import ShaderPreview.Text.Word

/-!
# The Spacing of Texts

Where a text only has to be blank, it does not matter which blanks stand there, nor how many. Two
texts are **spaced alike up to the gaps** when one becomes the other by putting other blanks into
its gaps, with at least one blank in each. Everything that is eaten off such texts leaves texts of
the same kind, so that no eater tells one spacing from another.

## Main definitions

* `Text.Respaced`: one text is the other with other blanks in its gaps.

## Main results

* `Text.Respaced.eat`, `Text.Respaced.eatBlanks`, `Text.Respaced.eatOne`: eating keeps the relation.
* `Text.isWord_of_isBlank`: no blank is a word character.
-/

namespace ShaderPreview.Text

variable {s t u v literal : List Char} {c : Char}

/-! ### Blanks -/

/-- **No blank** is a word character. -/
theorem isWord_of_isBlank (h : isBlank c = true) : isWord c = false := by
  have hcode : ∀ r ∈ blankRanges, ∀ n ∈ List.range' r.1 (r.2 + 1 - r.1),
      isWord (Char.ofNat n) = false := by decide +kernel
  rw [isBlank, inRanges, List.any_eq_true] at h
  obtain ⟨r, hr, hn⟩ := h
  rw [Bool.and_eq_true, decide_eq_true_eq, decide_eq_true_eq] at hn
  obtain ⟨hlow, hhigh⟩ := hn
  have hmem : c.toNat ∈ List.range' r.1 (r.2 + 1 - r.1) := List.mem_range'_1.mpr (by omega)
  have hword := hcode r hr c.toNat hmem
  rwa [Char.ofNat_toNat] at hword

/-- No word character is a blank. -/
theorem isBlank_of_isWord (h : isWord c = true) : isBlank c = false := by
  cases hblank : isBlank c with
  | false => rfl
  | true => rw [isWord_of_isBlank hblank] at h; cases h

/-- Blanks in front of a text are no part of a literal without blanks. -/
theorem isInfix_blanks_append (hl : ∀ c ∈ literal, isBlank c = false) (hne : literal ≠ [])
    (hu : ∀ c ∈ u, isBlank c = true) : literal <:+: u ++ t ↔ literal <:+: t := by
  induction u with
  | nil => exact Iff.rfl
  | cons c u ih =>
    obtain ⟨hc, hu⟩ := List.forall_mem_cons.mp hu
    have hnot : c ∉ literal := fun hmem => by
      rw [hl c hmem] at hc
      exact Bool.false_ne_true hc
    have h := isInfix_append_cons (s := []) (t := u ++ t) hnot hne
    rw [List.nil_append, List.infix_nil, or_iff_right hne] at h
    exact h.trans (ih hu)

/-- Blanks behind a text are no part of a literal without blanks. -/
theorem isInfix_append_blanks (hl : ∀ c ∈ literal, isBlank c = false) (hne : literal ≠ [])
    (hu : ∀ c ∈ u, isBlank c = true) : literal <:+: t ++ u ↔ literal <:+: t := by
  have h : literal.reverse <:+: u.reverse ++ t.reverse ↔ literal.reverse <:+: t.reverse :=
    isInfix_blanks_append (fun c hc => hl c (List.mem_reverse.mp hc))
      (fun h => hne (List.reverse_eq_nil_iff.mp h)) fun c hc => hu c (List.mem_reverse.mp hc)
  rwa [← List.reverse_append, List.reverse_infix, List.reverse_infix] at h

/-- A text is what is left when its end is trimmed, and the blanks at its end. -/
theorem exists_trimEnd_append_blanks (s : List Char) :
    ∃ blanks, (∀ c ∈ blanks, isBlank c = true) ∧ s = trimEnd s ++ blanks := by
  obtain ⟨blanks, hb, hs⟩ := exists_blanks_append_trimStart s.reverse
  refine ⟨blanks.reverse, fun c hc => hb c (List.mem_reverse.mp hc), ?_⟩
  rw [trimEnd, ← List.reverse_append]
  exact List.reverse_eq_iff.mp hs

/-! ### Gaps -/

/-- One text **is the other with other blanks in its gaps**. -/
inductive Respaced : List Char → List Char → Prop
  | nil : Respaced [] []
  | cons (c : Char) {s t : List Char} (h : Respaced s t) : Respaced (c :: s) (c :: t)
  | gap {u v s t : List Char} (hu : u ≠ []) (hv : v ≠ []) (hub : ∀ c ∈ u, isBlank c = true)
      (hvb : ∀ c ∈ v, isBlank c = true) (h : Respaced s t) : Respaced (u ++ s) (v ++ t)

namespace Respaced

/-- A text has its own blanks in its gaps. -/
theorem refl (s : List Char) : Respaced s s := by
  induction s with
  | nil => exact .nil
  | cons c s ih => exact .cons c ih

/-- The same text in front of both makes no difference. -/
theorem append (u : List Char) (h : Respaced s t) : Respaced (u ++ s) (u ++ t) := by
  induction u with
  | nil => exact h
  | cons c u ih => exact .cons c ih

/-- A character that is no blank stands in both texts. -/
theorem exists_eq_cons (h : Respaced (c :: s) t) (hc : isBlank c = false) :
    ∃ t', t = c :: t' ∧ Respaced s t' := by
  generalize hs : c :: s = cs at h
  cases h with
  | nil => cases hs
  | cons d h =>
    obtain ⟨rfl, rfl⟩ := List.cons.inj hs
    exact ⟨_, rfl, h⟩
  | @gap u _ _ _ hu _ hub _ _ =>
    obtain ⟨d, u, rfl⟩ := List.exists_cons_of_ne_nil hu
    obtain ⟨rfl, -⟩ := List.cons.inj hs
    rw [(List.forall_mem_cons.mp hub).1] at hc
    cases hc

/-- The relation holds the other way round. -/
theorem symm (h : Respaced s t) : Respaced t s := by
  induction h with
  | nil => exact .nil
  | cons c _ ih => exact .cons c ih
  | gap hu hv hub hvb _ ih => exact .gap hv hu hvb hub ih

/-! ### Eating -/

/-- A literal without blanks opens both texts or none, and the rests are alike. -/
theorem isPrefix (hl : ∀ c ∈ literal, isBlank c = false) (h : Respaced (literal ++ s) t) :
    ∃ t', t = literal ++ t' ∧ Respaced s t' := by
  induction literal generalizing t with
  | nil => exact ⟨t, rfl, h⟩
  | cons c literal ih =>
    obtain ⟨hc, hl⟩ := List.forall_mem_cons.mp hl
    obtain ⟨rest, rfl, hrest⟩ := h.exists_eq_cons hc
    obtain ⟨t', rfl, h'⟩ := ih hl hrest
    exact ⟨t', rfl, h'⟩

/-- A literal without blanks occurs in both texts or in none. -/
theorem isInfix (hl : ∀ c ∈ literal, isBlank c = false) (hne : literal ≠ []) (h : Respaced s t)
    (hs : literal <:+: s) : literal <:+: t := by
  induction h with
  | nil => exact hs
  | cons c h ih =>
    rcases List.infix_cons_iff.mp hs with hp | hi
    · obtain ⟨rest, hr⟩ := hp
      obtain ⟨rest', ht, -⟩ := (hr ▸ Respaced.cons c h).isPrefix hl
      exact List.infix_cons_iff.mpr (.inl ⟨rest', ht.symm⟩)
    · exact List.infix_cons_iff.mpr (.inr (ih hi))
  | gap hu hv hub hvb _ ih =>
    rw [isInfix_blanks_append hl hne hub] at hs
    exact (isInfix_blanks_append hl hne hvb).mpr (ih hs)

/-- A literal without blanks occurs in both texts or in neither. -/
theorem isInfix_iff (hl : ∀ c ∈ literal, isBlank c = false) (hne : literal ≠ [])
    (h : Respaced s t) : literal <:+: s ↔ literal <:+: t :=
  ⟨h.isInfix hl hne, h.symm.isInfix hl hne⟩

/-- **Eating a literal** without blanks. -/
theorem eat (hl : ∀ c ∈ literal, isBlank c = false) (h : Respaced s t) :
    Option.Rel Respaced (Text.eat literal s) (Text.eat literal t) := by
  cases hs : Text.eat literal s with
  | some s' =>
    obtain rfl := eat_eq_some_iff.mp hs
    obtain ⟨t', rfl, h'⟩ := h.isPrefix hl
    rw [eat_eq_some_iff.mpr rfl]
    exact .some h'
  | none =>
    cases ht : Text.eat literal t with
    | none => exact .none
    | some t' =>
      obtain rfl := eat_eq_some_iff.mp ht
      obtain ⟨s', rfl, -⟩ := h.symm.isPrefix hl
      rw [eat_eq_some_iff.mpr rfl] at hs
      cases hs

/-- **Eating one of several words** without blanks. -/
theorem eatOne {words : List (List Char)} (hl : ∀ word ∈ words, ∀ c ∈ word, isBlank c = false)
    (h : Respaced s t) : Option.Rel Respaced (Text.eatOne words s) (Text.eatOne words t) := by
  induction words with
  | nil => exact .none
  | cons word words ih =>
    obtain ⟨hword, hwords⟩ := List.forall_mem_cons.mp hl
    have heat := h.eat hword
    simp only [Text.eatOne, List.findSome?_cons] at ih ⊢
    generalize Text.eat word s = os at heat ⊢
    generalize Text.eat word t = ot at heat ⊢
    cases heat with
    | none => exact ih hwords
    | some h => exact .some h

/-- Blanks taken off at the start leave the relation as it is. -/
theorem trimStart (h : Respaced s t) : Respaced (Text.trimStart s) (Text.trimStart t) := by
  induction h with
  | nil => exact .nil
  | @cons c s t h ih =>
    by_cases hc : isBlank c = true
    · rw [Text.trimStart, Text.trimStart, List.dropWhile_cons_of_pos hc,
        List.dropWhile_cons_of_pos hc]
      exact ih
    · rw [Text.trimStart, Text.trimStart, List.dropWhile_cons_of_neg hc,
        List.dropWhile_cons_of_neg hc]
      exact .cons c h
  | gap _ _ hub hvb _ ih =>
    rw [Text.trimStart, Text.trimStart, List.dropWhile_append_of_pos hub,
      List.dropWhile_append_of_pos hvb]
    exact ih

/-- **Eating blanks**. -/
theorem eatBlanks (h : Respaced s t) :
    Option.Rel Respaced (Text.eatBlanks s) (Text.eatBlanks t) := by
  have htrim := h.trimStart
  cases h with
  | nil => exact .none
  | @cons c s t h =>
    rw [Text.eatBlanks, Text.eatBlanks]
    by_cases hc : isBlank c = true
    · rw [if_pos hc, if_pos hc]
      exact .some h.trimStart
    · rw [if_neg hc, if_neg hc]
      exact .none
  | @gap u v s t hu hv hub hvb h =>
    obtain ⟨c, u, rfl⟩ := List.exists_cons_of_ne_nil hu
    obtain ⟨d, v, rfl⟩ := List.exists_cons_of_ne_nil hv
    have hc := (List.forall_mem_cons.mp hub).1
    have hd := (List.forall_mem_cons.mp hvb).1
    rw [Text.trimStart, Text.trimStart, List.cons_append, List.cons_append,
      List.dropWhile_cons_of_pos hc, List.dropWhile_cons_of_pos hd] at htrim
    rw [List.cons_append, List.cons_append, Text.eatBlanks, Text.eatBlanks, if_pos hc, if_pos hd]
    exact .some htrim

/-- Eaters one after another. -/
theorem bind {f g : List Char → Option (List Char)} {os ot : Option (List Char)}
    (h : Option.Rel Respaced os ot)
    (hf : ∀ s t, Respaced s t → Option.Rel Respaced (f s) (g t)) :
    Option.Rel Respaced (os.bind f) (ot.bind g) := by
  cases h with
  | none => exact .none
  | some h => exact hf _ _ h

end Respaced

end ShaderPreview.Text
