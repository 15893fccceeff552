import ShaderPreview.Proofs.Text.Trimming
import ShaderPreview.Text.LowerCase

/-!
# What Lower Case Makes Plain

Lower-casing knows all of Unicode, while most names are plain: ASCII, and without the letter k. Few
texts have such a name for their lower case. Outside ASCII a character goes to others outside ASCII,
with two exceptions: the sign for a kelvin goes to the letter k, and the capital I with a dot goes
to an i that a combining dot follows. So the lower case of a text is a plain name only where the
text is that name up to the case of its ASCII letters.

Neither does lower-casing make a blank of anything else.

## Main definitions

* `Text.IsPlain`: ASCII, and not the letter k.
* `Text.SameLetters`: two texts are alike up to the case of their ASCII letters.

## Main results

* `Text.lowerCase_eq_iff`, `Text.lowerCase_lowerCase_eq_iff`: which texts have a plain name for
  their lower case.
* `Text.trim_lowerCase`: the lower case of a text without blanks is trimmed already.
-/

namespace ShaderPreview.Text

variable {s name before : List Char} {c d : Char} {r : CaseRun}

/-! ### The case of ASCII letters -/

/-- A character is **plain** when it is ASCII, and not the letter k. -/
def IsPlain (c : Char) : Prop := c.toNat < 128 ∧ c ≠ 'k'

instance : DecidablePred IsPlain := fun c => inferInstanceAs (Decidable (c.toNat < 128 ∧ c ≠ 'k'))

/-- Two texts are **alike up to the case** of their ASCII letters. -/
def SameLetters (s t : List Char) : Prop := s.map Char.toLower = t.map Char.toLower

instance : DecidableRel SameLetters := fun s t =>
  inferInstanceAs (Decidable (s.map Char.toLower = t.map Char.toLower))

/-- Outside ASCII there is no ASCII letter to change. -/
theorem toLower_of_not_ascii (h : 128 ≤ c.toNat) : c.toLower = c := by
  refine dif_neg ?_
  rintro ⟨-, hz⟩
  have hle : c.toNat ≤ 90 := UInt32.le_iff_toNat_le.mp hz
  omega

/-- What holds of the first code points holds of ASCII. -/
theorem ascii_forall {P : Char → Prop} (h : ∀ n < 128, P (Char.ofNat n)) (hc : c.toNat < 128) :
    P c := by
  have hp := h c.toNat hc
  rwa [Char.ofNat_toNat] at hp

/-- The case of an ASCII letter has nothing to do with blanks. -/
theorem isBlank_toLower (c : Char) : isBlank c.toLower = isBlank c := by
  by_cases h : c.toNat < 128
  · exact ascii_forall (P := fun c => isBlank c.toLower = isBlank c) (by decide +kernel) h
  · rw [toLower_of_not_ascii (Nat.le_of_not_lt h)]

/-- A letter in lower case stays so. -/
theorem toLower_toLower (c : Char) : c.toLower.toLower = c.toLower := by
  by_cases h : c.toNat < 128
  · exact ascii_forall (P := fun c => c.toLower.toLower = c.toLower) (by decide +kernel) h
  · rw [toLower_of_not_ascii (Nat.le_of_not_lt h), toLower_of_not_ascii (Nat.le_of_not_lt h)]

/-- A text in lower case stays so. -/
theorem map_toLower_map_toLower (s : List Char) :
    (s.map Char.toLower).map Char.toLower = s.map Char.toLower := by
  rw [List.map_map]
  exact List.map_congr_left fun c _ => toLower_toLower c

/-- Only a plain character goes to a plain one by its ASCII letter. -/
theorem IsPlain.of_toLower (h : IsPlain c.toLower) : IsPlain c := by
  refine ⟨?_, ?_⟩
  · by_contra hc
    rw [toLower_of_not_ascii (Nat.le_of_not_lt hc)] at h
    exact hc h.1
  · rintro rfl
    exact absurd h (by decide)

/-! ### Runs of capitals -/

/-- What a run makes of its capitals is a character, and not a blank. -/
theorem caseRun_isValid (hr : r ∈ caseRuns) :
    (0 ≤ r.first + r.offset ∧ r.last + r.offset < 0xD800 ∨
      0xDFFF < r.first + r.offset ∧ r.last + r.offset < 0x110000) ∧
      ∀ b ∈ blankRanges, r.last + r.offset < b.1 ∨ b.2 < r.first + r.offset := by
  revert r
  decide +kernel

/-- A run outside ASCII stays there, apart from the sign for a kelvin. -/
theorem caseRun_not_ascii (hr : r ∈ caseRuns) :
    r.last < 128 ∨ r.first + r.offset ≥ 128 ∨ r.first = r.last ∧ r.first + r.offset = 107 := by
  revert r
  decide +kernel

/-- A capital of a run goes to the character with its own number plus the offset. -/
theorem toNat_of_covers (hr : r ∈ caseRuns) (hc : r.covers c.toNat = true) :
    r.first ≤ c.toNat ∧ c.toNat ≤ r.last ∧
      ((Char.ofNat (c.toNat + r.offset).toNat).toNat : Int) = c.toNat + r.offset := by
  simp only [CaseRun.covers, Bool.and_eq_true, decide_eq_true_eq] at hc
  obtain ⟨⟨hfirst, hlast⟩, -⟩ := hc
  obtain ⟨hvalid, -⟩ := caseRun_isValid hr
  refine ⟨hfirst, hlast, ?_⟩
  have hn : (c.toNat + r.offset).toNat.isValidChar := by
    rw [Nat.isValidChar]
    omega
  have hcode : (Char.ofNat (c.toNat + r.offset).toNat).toNat = (c.toNat + r.offset).toNat := by
    rw [Char.ofNat, dif_pos hn]
    rfl
  omega

/-- The ways that one character outside ASCII can go. -/
theorem lowerChar_cases (h : 128 ≤ c.toNat) :
    lowerChar c = [c] ∨ lowerChar c = ['i', Char.ofNat 775] ∨
      ∃ r ∈ caseRuns, r.covers c.toNat = true ∧
        lowerChar c = [Char.ofNat (c.toNat + r.offset).toNat] := by
  rw [lowerChar, if_neg (Nat.not_lt.mpr h)]
  split
  · exact .inr (.inl rfl)
  · cases hfind : caseRuns.find? (·.covers c.toNat) with
    | none => exact .inl rfl
    | some r =>
      refine .inr (.inr ⟨r, List.mem_of_find?_eq_some hfind, ?_, rfl⟩)
      exact (List.find?_eq_some_iff_append.mp hfind).1

/-! ### One character -/

/-- What a character goes to between what stands before it and what stands after it. -/
theorem lowerAfter_cons (before : List Char) (c : Char) (s : List Char) :
    ∃ lowered, lowerAfter before (c :: s) = lowered ++ lowerAfter (c :: before) s ∧
      (lowered = lowerChar c ∨ c = 'Σ' ∧ (lowered = ['ς'] ∨ lowered = ['σ'])) := by
  refine ⟨_, rfl, ?_⟩
  split
  case isTrue hc => split <;> simp [hc]
  case isFalse => exact .inl rfl

/-- A character outside ASCII goes to something that is not plain. -/
theorem exists_not_isPlain (h : 128 ≤ c.toNat) : ∃ d ∈ lowerChar c, ¬IsPlain d := by
  rcases lowerChar_cases h with hc | hc | ⟨r, hr, hcovers, hc⟩
  · exact ⟨c, by simp [hc], fun hp => absurd hp.1 (Nat.not_lt.mpr h)⟩
  · exact ⟨Char.ofNat 775, by simp [hc], by decide⟩
  · refine ⟨Char.ofNat (c.toNat + r.offset).toNat, by simp [hc], ?_⟩
    rintro ⟨hascii, hk⟩
    obtain ⟨hfirst, hlast, hcode⟩ := toNat_of_covers hr hcovers
    rcases caseRun_not_ascii hr with hlow | hhigh | ⟨hone, hkelvin⟩
    · omega
    · omega
    · refine hk (Char.toNat_inj.mp ?_)
      have hkcode : 'k'.toNat = 107 := rfl
      omega

/-- What is not blank goes to nothing that is blank. -/
theorem isBlank_of_mem_lowerChar (hc : isBlank c = false) (hd : d ∈ lowerChar c) :
    isBlank d = false := by
  by_cases h : c.toNat < 128
  · rw [lowerChar, if_pos h, List.mem_singleton] at hd
    rw [hd, isBlank_toLower, hc]
  · rcases lowerChar_cases (Nat.le_of_not_lt h) with he | he | ⟨r, hr, hcovers, he⟩
    · rw [he, List.mem_singleton] at hd
      rw [hd, hc]
    · rw [he] at hd
      rcases List.mem_pair.mp hd with rfl | rfl
      · decide
      · decide
    · rw [he, List.mem_singleton] at hd
      obtain ⟨hfirst, hlast, hcode⟩ := toNat_of_covers hr hcovers
      obtain ⟨-, hblank⟩ := caseRun_isValid hr
      rw [hd, isBlank, inRanges, List.any_eq_false]
      intro b hb hin
      rw [Bool.and_eq_true, decide_eq_true_eq, decide_eq_true_eq] at hin
      rcases hblank b hb with hbelow | habove <;> omega

/-! ### Texts -/

/-- An ASCII text goes to lower case letter by letter. -/
theorem lowerAfter_of_ascii (h : ∀ c ∈ s, c.toNat < 128) :
    lowerAfter before s = s.map Char.toLower := by
  induction s generalizing before with
  | nil => rfl
  | cons c s ih =>
    obtain ⟨hc, hs⟩ := List.forall_mem_cons.mp h
    obtain ⟨lowered, he, hlowered | ⟨rfl, -⟩⟩ := lowerAfter_cons before c s
    · rw [he, hlowered, lowerChar, if_pos hc, ih hs]
      rfl
    · exact absurd hc (by decide)

/-- A text whose lower case is plain is ASCII. -/
theorem ascii_of_lowerAfter (h : ∀ d ∈ lowerAfter before s, IsPlain d) :
    ∀ c ∈ s, c.toNat < 128 := by
  induction s generalizing before with
  | nil => exact fun _ hc => absurd hc List.not_mem_nil
  | cons c s ih =>
    obtain ⟨lowered, he, hlowered⟩ := lowerAfter_cons before c s
    rw [he] at h
    obtain ⟨hhere, hrest⟩ := List.forall_mem_append.mp h
    refine List.forall_mem_cons.mpr ⟨?_, ih hrest⟩
    rcases hlowered with rfl | ⟨-, rfl | rfl⟩
    · by_contra hc
      obtain ⟨d, hd, hnot⟩ := exists_not_isPlain (Nat.le_of_not_lt hc)
      exact hnot (hhere d hd)
    · exact absurd (hhere 'ς' (List.mem_singleton_self _)) (by decide)
    · exact absurd (hhere 'σ' (List.mem_singleton_self _)) (by decide)

/-- The lower case of a text is a **plain name** exactly where the text is ASCII and its letters are
the name's. -/
theorem lowerCase_eq_iff (hname : ∀ c ∈ name, IsPlain c) :
    lowerCase s = name ↔ s.map Char.toLower = name := by
  constructor
  · rintro rfl
    exact (lowerAfter_of_ascii (ascii_of_lowerAfter hname)).symm
  · rintro rfl
    refine lowerAfter_of_ascii fun c hc => ?_
    exact (hname _ (List.mem_map_of_mem hc)).of_toLower.1

/-- To lower the case **once more** makes no difference for a plain name. -/
theorem lowerCase_lowerCase_eq_iff (hname : ∀ c ∈ name, IsPlain c) :
    lowerCase (lowerCase s) = name ↔ s.map Char.toLower = name := by
  rw [lowerCase_eq_iff hname]
  constructor
  · rintro rfl
    have hplain : ∀ d ∈ lowerCase s, IsPlain d := fun d hd =>
      (hname _ (List.mem_map_of_mem hd)).of_toLower
    have hs : s.map Char.toLower = lowerCase s := (lowerCase_eq_iff hplain).mp rfl
    rw [← hs, map_toLower_map_toLower]
  · rintro rfl
    rw [(lowerCase_eq_iff hname).mpr rfl, map_toLower_map_toLower]

/-- A text without blanks goes to a text without blanks. -/
theorem isBlank_of_mem_lowerAfter (h : ∀ c ∈ s, isBlank c = false) :
    ∀ d ∈ lowerAfter before s, isBlank d = false := by
  induction s generalizing before with
  | nil => exact fun _ hd => absurd hd List.not_mem_nil
  | cons c s ih =>
    obtain ⟨hc, hs⟩ := List.forall_mem_cons.mp h
    obtain ⟨lowered, he, hlowered⟩ := lowerAfter_cons before c s
    rw [he]
    refine List.forall_mem_append.mpr ⟨fun d hd => ?_, ih hs⟩
    rcases hlowered with rfl | ⟨-, rfl | rfl⟩
    · exact isBlank_of_mem_lowerChar hc hd
    · rw [List.mem_singleton.mp hd]
      decide
    · rw [List.mem_singleton.mp hd]
      decide

/-- The lower case of a text without blanks **is trimmed already**. -/
theorem trim_lowerCase (h : ∀ c ∈ s, isBlank c = false) : trim (lowerCase s) = lowerCase s := by
  have hnone : ∀ d ∈ lowerCase s, isBlank d = false := isBlank_of_mem_lowerAfter h
  exact trim_eq_self (fun c hc => hnone c (List.mem_of_mem_head? hc))
    fun c hc => hnone c (List.mem_of_getLast? hc)

end ShaderPreview.Text
