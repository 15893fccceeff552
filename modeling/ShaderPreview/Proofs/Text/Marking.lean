import ShaderPreview.Proofs.Text.Searching

/-!
# Markers in a Text

A text is cut at the leftmost occurrence of a literal. In general the text before the cut may end
with the beginning of another occurrence, which runs on into the literal. A **marker** cannot be
entangled in this way: it opens with two slashes and has no other, so that two markers in a text
begin at the same place or are apart. What is put together with markers therefore comes apart again
at the same places.

## Main definitions

* `Text.StartsAt`, `Text.FirstAt`: where a literal occurs, and where it occurs first.
* `Text.IsMarker`: two slashes and then no other.

## Main results

* `Text.cut?_eq_some_iff`: a text is cut where the literal occurs first.
* `Text.IsMarker.apart`: two markers that begin at different places are apart.
* `Text.IsMarker.firstAt_iff`: a marker occurs first where it is not in what comes before.
* `Text.IsMarker.isInfix_append_iff`: a marker is on one side of another marker.
-/

namespace ShaderPreview.Text

variable {literal m n s t u : List Char} {i j : Nat}

/-! ### Places -/

/-- A literal **occurs at** a place of a text. -/
def StartsAt (literal s : List Char) (i : Nat) : Prop := literal <+: s.drop i

/-- A literal occurs at a place of a text **for the first time**. -/
def FirstAt (literal s : List Char) (i : Nat) : Prop :=
  StartsAt literal s i ∧ ∀ j, StartsAt literal s j → i ≤ j

/-- There is one place at which a literal occurs for the first time. -/
theorem FirstAt.unique (hi : FirstAt literal s i) (hj : FirstAt literal s j) : i = j :=
  Nat.le_antisymm (hi.2 j hj.1) (hj.2 i hi.1)

/-- A literal occurs where it was put. -/
theorem startsAt_append (s literal t : List Char) :
    StartsAt literal (s ++ literal ++ t) s.length := by
  rw [StartsAt, List.append_assoc, List.drop_left]
  exact List.prefix_append literal t

/-- What occurs at a place is there character by character. -/
theorem StartsAt.getElem? (h : StartsAt literal s i) (hj : j < literal.length) :
    s[i + j]? = literal[j]? := by
  obtain ⟨t, ht⟩ := h
  rw [← List.getElem?_drop, ← ht, List.getElem?_append_left hj]

/-- What occurs at a place of a text is an infix of it. -/
theorem StartsAt.isInfix (h : StartsAt literal s i) : literal <:+: s :=
  (List.IsPrefix.isInfix h).trans (List.drop_suffix i s).isInfix

/-- What occurs within the first part of a text is an infix of it. -/
theorem StartsAt.isInfix_left (h : StartsAt literal (s ++ t) i)
    (hi : i + literal.length ≤ s.length) : literal <:+: s := by
  rw [StartsAt, List.drop_append_of_le_length (by omega)] at h
  have hs : literal <+: s.drop i := by
    refine List.prefix_of_prefix_length_le h (List.prefix_append _ t) ?_
    rw [List.length_drop]
    omega
  exact hs.isInfix.trans (List.drop_suffix i s).isInfix

/-- What occurs from the second part of a text on is an infix of that. -/
theorem StartsAt.isInfix_right (h : StartsAt literal (s ++ t) i) (hi : s.length ≤ i) :
    literal <:+: t := by
  rw [StartsAt, List.drop_append, List.drop_of_length_le hi, List.nil_append] at h
  exact h.isInfix.trans (List.drop_suffix _ t).isInfix

/-! ### Cutting -/

/-- A text is cut where the literal occurs first. -/
theorem firstAt_of_cut? (h : cut? literal s = some (t, u)) : FirstAt literal s t.length := by
  induction s generalizing t u with
  | nil =>
    rw [cut?] at h
    split at h
    case isTrue hl =>
      cases h
      rw [List.isEmpty_iff.mp hl]
      exact ⟨List.nil_prefix, fun j _ => Nat.zero_le j⟩
    case isFalse => contradiction
  | cons c s ih =>
    rw [cut?] at h
    split at h
    case isTrue hp =>
      cases h
      exact ⟨List.isPrefixOf_iff_prefix.mp hp, fun j _ => Nat.zero_le j⟩
    case isFalse hp =>
      obtain ⟨⟨t, u⟩, hcut, he⟩ := Option.map_eq_some_iff.mp h
      obtain ⟨rfl, rfl⟩ := Prod.mk.inj he
      obtain ⟨hstarts, hleast⟩ := ih hcut
      refine ⟨hstarts, fun j hj => ?_⟩
      cases j with
      | zero => exact absurd (List.isPrefixOf_iff_prefix.mpr hj) hp
      | succ j => exact Nat.succ_le_succ (hleast j hj)

/-- There is no cut where the literal does not occur. -/
theorem cut?_eq_none_iff : cut? literal s = none ↔ ¬ literal <:+: s := by
  rw [← contains_iff_isInfix, contains, Bool.not_eq_true, Option.isSome_eq_false_iff,
    Option.isNone_iff_eq_none]

/-- There is a cut where the literal occurs. -/
theorem exists_cut? (h : literal <:+: s) : ∃ parts, cut? literal s = some parts :=
  Option.isSome_iff_exists.mp (contains_iff_isInfix.mpr h)

/-- Where a text can be cut at a literal, the literal occurs in it. -/
theorem isInfix_of_cut? {parts : List Char × List Char} (h : cut? literal s = some parts) :
    literal <:+: s :=
  ⟨parts.1, parts.2, (append_of_cut? h).symm⟩

/-- A **cut** gives what stands before and after the first occurrence. -/
theorem cut?_eq_some_iff :
    cut? literal s = some (t, u) ↔ s = t ++ literal ++ u ∧ FirstAt literal s t.length := by
  refine ⟨fun h => ⟨append_of_cut? h, firstAt_of_cut? h⟩, ?_⟩
  rintro ⟨rfl, hfirst⟩
  have hinfix : literal <:+: t ++ literal ++ u := ⟨t, u, rfl⟩
  obtain ⟨⟨t', u'⟩, hcut⟩ := exists_cut? hinfix
  have hlength : t'.length = t.length := (firstAt_of_cut? hcut).unique hfirst
  have htext := append_of_cut? hcut
  rw [List.append_assoc, List.append_assoc] at htext
  obtain ⟨rfl, hrest⟩ := List.append_inj htext hlength.symm
  rw [hcut, List.append_cancel_left hrest]

/-! ### Markers -/

/-- A **marker** opens with two slashes, and has no other. -/
def IsMarker (m : List Char) : Prop := ∃ rest, m = '/' :: '/' :: rest ∧ rest ≠ [] ∧ '/' ∉ rest

namespace IsMarker

/-- Two markers that begin at different places are **apart**: the second one would have to begin
with a slash of the first one, and go on with another slash where the first one has none. -/
theorem apart (hm : IsMarker m) (hn : IsMarker n) (hi : StartsAt m s i) (hj : StartsAt n s j)
    (hlt : i < j) : i + m.length ≤ j := by
  obtain ⟨rest, rfl, hne, hslash⟩ := hm
  obtain ⟨rest', rfl, -, -⟩ := hn
  have hlength : 0 < rest.length := List.length_pos_of_ne_nil hne
  have hrest : ∀ k, rest[k]? ≠ some '/' := fun k hk => hslash (List.mem_of_getElem? hk)
  have hslash₀ : s[j]? = some '/' := hj.getElem? (j := 0) (Nat.succ_pos _)
  have hslash₁ : s[j + 1]? = some '/' := hj.getElem? (j := 1) (by simp)
  by_contra hoverlap
  obtain ⟨k, rfl⟩ : ∃ k, j = i + (k + 1) := ⟨j - i - 1, by omega⟩
  rw [hi.getElem? (by omega), List.getElem?_cons_succ] at hslash₀
  cases k with
  | zero =>
    have htwo : s[i + 2]? = rest[0]? := hi.getElem? (j := 2) (by simpa using hlength)
    exact hrest 0 (htwo.symm.trans hslash₁)
  | succ k =>
    rw [List.getElem?_cons_succ] at hslash₀
    exact hrest k hslash₀

/-- A marker is not empty. -/
theorem length_pos (hm : IsMarker m) : 0 < m.length := by
  obtain ⟨rest, rfl, -, -⟩ := hm
  exact Nat.succ_pos _

/-- A marker is the **first one** where it is not in what comes before. -/
theorem firstAt_iff (hm : IsMarker m) :
    FirstAt m (s ++ m ++ t) s.length ↔ ¬ m <:+: s := by
  have hstarts := startsAt_append s m t
  constructor
  · rintro ⟨-, hleast⟩ ⟨a, b, rfl⟩
    have hearlier : StartsAt m (a ++ m ++ b ++ m ++ t) a.length := by
      simpa only [List.append_assoc] using startsAt_append a m (b ++ (m ++ t))
    have hle := hleast _ hearlier
    have hpos := hm.length_pos
    simp only [List.length_append] at hle
    omega
  · refine fun hs => ⟨hstarts, fun i hi => ?_⟩
    by_contra hlt
    have hapart := hm.apart hm hi hstarts (by omega)
    rw [List.append_assoc] at hi
    exact hs (hi.isInfix_left hapart)

/-- A marker is **on one side** of another marker that does not begin like it. -/
theorem isInfix_append_iff (hm : IsMarker m) (hn : IsMarker n)
    (hne : ∀ s i, StartsAt m s i → ¬ StartsAt n s i) :
    m <:+: s ++ n ++ t ↔ m <:+: s ∨ m <:+: t := by
  have hstarts := startsAt_append s n t
  constructor
  · rintro ⟨a, b, hab⟩
    have hi : StartsAt m (s ++ n ++ t) a.length := hab ▸ startsAt_append a m b
    rcases Nat.lt_trichotomy a.length s.length with hlt | heq | hlt
    · have hapart := hm.apart hn hi hstarts hlt
      rw [List.append_assoc] at hi
      exact .inl (hi.isInfix_left hapart)
    · exact absurd (heq ▸ hstarts) (hne _ _ hi)
    · have hapart := hn.apart hm hstarts hi hlt
      exact .inr (hi.isInfix_right (by rwa [List.length_append]))
  · rintro (hs | ht)
    · rw [List.append_assoc]
      exact hs.trans (List.prefix_append s _).isInfix
    · exact ht.trans (List.suffix_append _ t).isInfix

end IsMarker

end ShaderPreview.Text
