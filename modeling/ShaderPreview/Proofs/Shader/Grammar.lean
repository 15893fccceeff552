import ShaderPreview.Proofs.Shader.NormalForm
import ShaderPreview.Proofs.Text.Spacing

/-!
# The Grammar of Declarations

A declaration is a storage word, a qualifier of precision or none, a type and an identifier, with
blanks between them. A text **declares** an input when it holds such a declaration that neither
starts nor ends in the middle of a word. The scanner of `Declaration.declaredIn` reads a text once
and never goes back; on the recognized inputs it finds exactly this.

How a text is spaced has no influence on what it declares or uses: not the blanks at its ends, nor
those in its gaps.

## Main definitions

* `Declaration.IsMade`: the texts that make a declaration.
* `Declaration.Declares`: a text makes the declaration somewhere, as whole words.

## Main results

* `Declaration.declaredIn_iff`: the scanner finds what a text declares.
* `Declaration.judgedAlike_respaced`, `Declaration.judgedAlike_trim`: spacing has no influence.
-/

namespace ShaderPreview.Declaration

open Text

variable {c : Char} {s t u : List Char} {d : Declaration}

/-! ### Making a declaration -/

/-- The texts that may stand where a **qualifier of precision** may: none, or a qualifier and the
blanks after it. -/
inductive IsQualification : List Char → Prop
  | none : IsQualification []
  | word {qualifier gap : List Char} (mem : qualifier ∈ precisionWords) (gap_ne : gap ≠ [])
      (blank : ∀ c ∈ gap, isBlank c = true) : IsQualification (qualifier ++ gap)

/-- The texts that **make a declaration**: a storage word, blanks, a qualifier or none, the type,
blanks, and the identifier. -/
inductive IsMade (d : Declaration) : List Char → Prop
  | intro {word gap qualification gap' : List Char} (mem : word ∈ d.storage.map String.toList)
      (gap_ne : gap ≠ []) (blank : ∀ c ∈ gap, isBlank c = true)
      (qualified : IsQualification qualification) (gap_ne' : gap' ≠ [])
      (blank' : ∀ c ∈ gap', isBlank c = true) :
      IsMade d (word ++ (gap ++ (qualification ++ (d.type.toList ++
        (gap' ++ d.identifier.toList)))))

/-- Whether a text stops **in the middle of a word**, when it goes on with a word character. -/
def endsWord (s : List Char) : Bool := s.getLast?.any isWord

/-- A text **declares** an input: somewhere it makes the declaration, and there neither a word goes
on before it nor one after it. -/
def Declares (d : Declaration) (s : List Char) : Prop :=
  ∃ before made after, s = before ++ (made ++ after) ∧ d.IsMade made ∧
    endsWord before = false ∧ startsWord after = false

/-- The words of the recognized inputs, as far as reading on from them depends on it: a storage word
is not taken for another one, a type not for a qualifier, and no blank stands where the gaps end. -/
theorem eatOne_storage (hd : d ∈ recognized) {word : List Char}
    (hw : word ∈ d.storage.map String.toList) :
    eatOne (d.storage.map String.toList) (word ++ t) = some t := by
  simp only [recognized, List.mem_cons, List.not_mem_nil, or_false] at hd
  rcases hd with rfl | rfl | rfl | rfl <;>
    simp only [List.map_cons, List.map_nil, List.mem_cons, List.not_mem_nil, or_false] at hw
  · obtain rfl := hw
    rfl
  · obtain rfl := hw
    rfl
  · rcases hw with rfl | rfl <;> rfl
  · rcases hw with rfl | rfl <;> rfl

/-- The type of a recognized declaration does not read as a qualifier. -/
theorem eatOne_precisionWords_type (hd : d ∈ recognized) :
    eatOne precisionWords (d.type.toList ++ t) = none := by
  simp only [recognized, List.mem_cons, List.not_mem_nil, or_false] at hd
  rcases hd with rfl | rfl | rfl | rfl <;> rfl

/-- No word of a recognized input has a blank in it. -/
theorem isBlank_of_mem_words (hd : d ∈ recognized) :
    (∀ word ∈ d.storage.map String.toList, ∀ c ∈ word, isBlank c = false) ∧
      (∀ c ∈ d.type.toList, isBlank c = false) ∧ ∀ c ∈ d.identifier.toList, isBlank c = false := by
  have hwords : ∀ d ∈ recognized, (d.type.toList :: d.identifier.toList ::
      d.storage.map String.toList).all (fun word => word.all (!isBlank ·)) = true := by decide
  have h := hwords d hd
  simp only [List.all_cons, Bool.and_eq_true, List.all_eq_true, Bool.not_eq_true'] at h
  obtain ⟨htype, hidentifier, hstorage⟩ := h
  exact ⟨hstorage, htype, hidentifier⟩

/-- A recognized declaration has a type. -/
theorem type_ne_nil_of_mem_recognized : ∀ d ∈ recognized, d.type.toList ≠ [] := by decide

/-- No blank stands before the type of a recognized declaration. -/
theorem flushStart_type (hd : d ∈ recognized) : FlushStart (d.type.toList ++ t) := by
  rw [flushStart_append (type_ne_nil_of_mem_recognized d hd)]
  exact fun c hc => (isBlank_of_mem_words hd).2.1 c (List.mem_of_mem_head? hc)

/-- No blank stands before its identifier. -/
theorem flushStart_identifier (hd : d ∈ recognized) : FlushStart (d.identifier.toList ++ t) := by
  rw [flushStart_append (identifier_ne_nil_of_mem_recognized d hd)]
  exact fun c hc => (isBlank_of_mem_words hd).2.2 c (List.mem_of_mem_head? hc)

/-- No blank stands before what qualifies a type. -/
theorem IsQualification.flushStart (h : IsQualification u) (hd : d ∈ recognized) :
    FlushStart (u ++ (d.type.toList ++ t)) := by
  cases h with
  | none => exact flushStart_type hd
  | word hmem _ _ =>
    rw [List.append_assoc]
    exact Precision.flushStart_qualifier hmem

/-- What is skipped is a qualification. -/
theorem exists_skipQualifier (s : List Char) :
    ∃ qualification, IsQualification qualification ∧ s = qualification ++ skipQualifier s := by
  rw [skipQualifier]
  split
  case h_1 rest hw =>
    obtain ⟨qualifier, hmem, rfl⟩ := exists_mem_of_eatOne hw
    cases hb : eatBlanks rest with
    | none => exact ⟨[], .none, rfl⟩
    | some last =>
      obtain ⟨gap, hne, hblank, -, rfl⟩ := eatBlanks_eq_some_iff.mp hb
      exact ⟨qualifier ++ gap, .word hmem hne hblank, by simp⟩
  case h_2 => exact ⟨[], .none, rfl⟩

/-- In front of the type, a qualification is skipped as a whole. -/
theorem IsQualification.skipQualifier (h : IsQualification u) (hd : d ∈ recognized) :
    skipQualifier (u ++ (d.type.toList ++ t)) = d.type.toList ++ t := by
  cases h with
  | none => rw [List.nil_append, Declaration.skipQualifier, eatOne_precisionWords_type hd]
  | @word qualifier gap hmem hne hblank =>
    have hgap : eatBlanks (gap ++ (d.type.toList ++ t)) = some (d.type.toList ++ t) :=
      eatBlanks_eq_some_iff.mpr ⟨gap, hne, hblank, flushStart_type hd, rfl⟩
    rw [List.append_assoc, Declaration.skipQualifier, Precision.eatOne_precisionWords hmem]
    simp only [hgap, Option.getD_some]

/-- What follows a declaration that starts a text. -/
theorem after?_eq_some_iff (hd : d ∈ recognized) :
    d.after? s = some t ↔ ∃ made, d.IsMade made ∧ s = made ++ t := by
  simp only [after?, Option.bind_eq_some_iff, eat_eq_some_iff, eatBlanks_eq_some_iff]
  constructor
  · rintro ⟨_, hw, r, ⟨gap, hne, hb, -, rfl⟩, _, hq, _, ⟨gap', hne', hb', -, rfl⟩, rfl⟩
    obtain ⟨word, hmem, rfl⟩ := exists_mem_of_eatOne hw
    obtain ⟨qualification, hqualified, hr⟩ := exists_skipQualifier r
    refine ⟨_, .intro hmem hne hb hqualified hne' hb', ?_⟩
    rw [hr, hq]
    simp only [List.append_assoc]
  · rintro ⟨made, ⟨hmem, hne, hb, hqualified, hne', hb'⟩, rfl⟩
    simp only [List.append_assoc]
    exact ⟨_, eatOne_storage hd hmem, _, ⟨_, hne, hb, hqualified.flushStart hd, rfl⟩, _,
      hqualified.skipQualifier hd, _, ⟨_, hne', hb', flushStart_identifier hd, rfl⟩, rfl⟩

/-- The scanner finds a declaration made here exactly if a text that makes it opens the text and no
word goes on after it. -/
theorem madeHere_iff (hd : d ∈ recognized) :
    d.madeHere s = true ↔
      ∃ made after, s = made ++ after ∧ d.IsMade made ∧ startsWord after = false := by
  rw [madeHere_eq]
  constructor
  · intro h
    cases hafter : d.after? s with
    | none =>
      rw [hafter] at h
      cases h
    | some after =>
      obtain ⟨made, hmade, rfl⟩ := (after?_eq_some_iff hd).mp hafter
      rw [hafter, Option.elim_some, Bool.not_eq_true'] at h
      exact ⟨made, after, rfl, hmade, h⟩
  · rintro ⟨made, after, rfl, hmade, h⟩
    rw [(after?_eq_some_iff hd).mpr ⟨made, hmade, rfl⟩, Option.elim_some, h]
    rfl

/-- A text that makes a declaration is not empty. -/
theorem IsMade.ne_nil (hd : d ∈ recognized) {made : List Char} (h : d.IsMade made) : made ≠ [] := by
  obtain ⟨_, _, _, _, _, _⟩ := h
  simp [identifier_ne_nil_of_mem_recognized d hd]

/-- A declaration ends with its identifier. -/
theorem IsMade.flushEnd (hd : d ∈ recognized) {made : List Char} (h : d.IsMade made) :
    FlushEnd made := by
  obtain ⟨_, _, _, _, _, _⟩ := h
  simp only [← List.append_assoc]
  rw [flushEnd_append (identifier_ne_nil_of_mem_recognized d hd)]
  exact fun c hc => (isBlank_of_mem_words hd).2.2 c (List.mem_of_mem_getLast? hc)

/-- The scanner finds a declaration made somewhere exactly if a text that makes it stands between
characters that are no part of a word. -/
theorem madeAfter_iff (hd : d ∈ recognized) {afterWord : Bool} :
    d.madeAfter afterWord s = true ↔ ∃ before made after, s = before ++ (made ++ after) ∧
      d.IsMade made ∧ (before.getLast?.map isWord).getD afterWord = false ∧
        startsWord after = false := by
  induction s generalizing afterWord with
  | nil =>
    simp only [madeAfter, Bool.false_eq_true, false_iff]
    rintro ⟨before, made, after, hs, hmade, -⟩
    have hmade := hmade.ne_nil hd
    simp_all
  | cons c s ih =>
    rw [madeAfter, Bool.or_eq_true, Bool.and_eq_true, Bool.not_eq_true', madeHere_iff hd, ih]
    constructor
    · rintro (⟨hword, made, after, hs, hmade, hafter⟩ | ⟨before, made, after, rfl, hmade, hbefore,
        hafter⟩)
      · exact ⟨[], made, after, hs, hmade, hword, hafter⟩
      · refine ⟨c :: before, made, after, rfl, hmade, ?_, hafter⟩
        rw [List.getLast?_cons]
        cases hlast : before.getLast? <;> simpa [hlast] using hbefore
    · rintro ⟨before, made, after, hs, hmade, hbefore, hafter⟩
      cases before with
      | nil => exact .inl ⟨hbefore, made, after, hs, hmade, hafter⟩
      | cons b before =>
        obtain ⟨rfl, rfl⟩ := List.cons.inj hs
        refine .inr ⟨before, made, after, rfl, hmade, ?_, hafter⟩
        rw [List.getLast?_cons] at hbefore
        cases hlast : before.getLast? <;> simpa [hlast] using hbefore

/-- The scanner finds **what a text declares**. -/
theorem declaredIn_iff (hd : d ∈ recognized) : d.declaredIn s = true ↔ d.Declares s := by
  rw [declaredIn, madeAfter_iff hd, Declares]
  have hend : ∀ before : List Char,
      (before.getLast?.map isWord).getD false = endsWord before := by
    intro before
    rw [endsWord]
    cases before.getLast? <;> rfl
  simp only [hend]

/-! ### Spacing -/

/-- A text that starts with a blank does not go on with a word. -/
theorem startsWord_append (hu : u ≠ []) (hb : ∀ c ∈ u, isBlank c = true) :
    startsWord (u ++ t) = false := by
  obtain ⟨c, u, rfl⟩ := List.exists_cons_of_ne_nil hu
  exact isWord_of_isBlank (hb c List.mem_cons_self)

/-- Other blanks in the gaps leave it open or not open with a word. -/
theorem startsWord_respaced (h : Respaced s t) : startsWord s = startsWord t := by
  cases h with
  | nil => rfl
  | cons c h => rfl
  | gap hu hv hub hvb h => rw [startsWord_append hu hub, startsWord_append hv hvb]

/-- What comes after a qualifier is the same up to the blanks in its gaps. -/
theorem skipQualifier_respaced (h : Respaced s t) :
    Respaced (skipQualifier s) (skipQualifier t) := by
  have hwords : precisionWords.all (fun word => word.all (!isBlank ·)) = true := by decide
  simp only [List.all_eq_true, Bool.not_eq_true'] at hwords
  have heat := h.eatOne hwords
  rw [skipQualifier, skipQualifier]
  generalize eatOne precisionWords s = os at heat ⊢
  generalize eatOne precisionWords t = ot at heat ⊢
  cases heat with
  | none => exact h
  | @some rest rest' hrest =>
    have hblanks := hrest.eatBlanks
    simp only
    generalize eatBlanks rest = os at hblanks ⊢
    generalize eatBlanks rest' = ot at hblanks ⊢
    cases hblanks with
    | none => exact h
    | some hlast => exact hlast

/-- What comes after a declaration is the same up to the blanks in its gaps. -/
theorem after?_respaced (hd : d ∈ recognized) (h : Respaced s t) :
    Option.Rel Respaced (d.after? s) (d.after? t) := by
  obtain ⟨hstorage, htype, hidentifier⟩ := isBlank_of_mem_words hd
  rw [after?, after?]
  refine Respaced.bind (h.eatOne hstorage) fun _ _ h => ?_
  refine Respaced.bind h.eatBlanks fun _ _ h => ?_
  refine Respaced.bind ((skipQualifier_respaced h).eat htype) fun _ _ h => ?_
  exact Respaced.bind h.eatBlanks fun _ _ h => h.eat hidentifier

/-- Other blanks in the gaps do not decide whether a declaration is made here. -/
theorem madeHere_respaced (hd : d ∈ recognized) (h : Respaced s t) :
    d.madeHere s = d.madeHere t := by
  have hafter := after?_respaced hd h
  rw [madeHere_eq, madeHere_eq]
  generalize d.after? s = os at hafter ⊢
  generalize d.after? t = ot at hafter ⊢
  cases hafter with
  | none => rfl
  | some h => rw [Option.elim_some, Option.elim_some, startsWord_respaced h]

/-- No declaration starts with a blank. -/
theorem madeHere_blank (hd : d ∈ recognized) (hc : isBlank c = true) :
    d.madeHere (c :: s) = false := by
  have hne : ∀ d ∈ recognized, ∀ word ∈ d.storage, word.toList ≠ [] := by decide
  refine madeHere_cons_eq_false fun word hword hp => ?_
  obtain ⟨e, rest, he⟩ := List.exists_cons_of_ne_nil (hne d hd word hword)
  have hblank := (isBlank_of_mem_words hd).1 word.toList (List.mem_map_of_mem hword)
  rw [he, List.cons_prefix_cons] at hp
  rw [he, hp.1] at hblank
  rw [hblank c List.mem_cons_self] at hc
  cases hc

/-- Behind blanks a declaration starts at a whole word. -/
theorem madeAfter_blanks_append (hd : d ∈ recognized) {afterWord : Bool} (hu : u ≠ [])
    (hb : ∀ c ∈ u, isBlank c = true) : d.madeAfter afterWord (u ++ s) = d.declaredIn s := by
  induction u generalizing afterWord with
  | nil => exact absurd rfl hu
  | cons c u ih =>
    obtain ⟨hc, hb⟩ := List.forall_mem_cons.mp hb
    rw [List.cons_append, madeAfter, madeHere_blank hd hc, isWord_of_isBlank hc, Bool.and_false,
      Bool.false_or]
    by_cases hu : u = []
    · rw [hu]
      rfl
    · exact ih hu hb

/-- Other blanks in the gaps do not decide whether a declaration is made further on. -/
theorem madeAfter_respaced (hd : d ∈ recognized) {afterWord : Bool} (h : Respaced s t) :
    d.madeAfter afterWord s = d.madeAfter afterWord t := by
  induction h generalizing afterWord with
  | nil => rfl
  | cons c h ih => rw [madeAfter, madeAfter, madeHere_respaced hd (.cons c h), ih]
  | gap hu hv hub hvb _ ih =>
    rw [madeAfter_blanks_append hd hu hub, madeAfter_blanks_append hd hv hvb]
    exact ih

/-- Blanks at the end of a text declare nothing. -/
theorem declares_append_blanks (hd : d ∈ recognized) (hb : ∀ c ∈ u, isBlank c = true) :
    d.Declares (s ++ u) ↔ d.Declares s := by
  constructor
  · rintro ⟨before, made, after, hs, hmade, hbefore, hafter⟩
    rw [← List.append_assoc] at hs
    rcases List.append_eq_append_iff.mp hs with ⟨rest, hrest, hu⟩ | ⟨rest, rfl, rfl⟩
    · -- a declaration does not end in the blanks, so they start right behind it
      have hflush : FlushEnd (before ++ made) :=
        (flushEnd_append (hmade.ne_nil hd)).mpr (hmade.flushEnd hd)
      have hnil : rest = [] := by
        by_contra hne
        obtain ⟨init, c, rfl⟩ := (List.eq_nil_or_concat' rest).resolve_left hne
        rw [hrest, ← List.append_assoc] at hflush
        have hc := hb c (by simp [hu])
        rw [flushEnd_concat.mp hflush] at hc
        cases hc
      rw [hnil, List.append_nil] at hrest
      exact ⟨before, made, [], by rw [← hrest, List.append_nil], hmade, hbefore, rfl⟩
    · refine ⟨before, made, rest, by rw [List.append_assoc], hmade, hbefore, ?_⟩
      cases rest with
      | nil => rfl
      | cons c rest => exact hafter
  · rintro ⟨before, made, after, rfl, hmade, hbefore, hafter⟩
    refine ⟨before, made, after ++ u, by simp only [List.append_assoc], hmade, hbefore, ?_⟩
    cases after with
    | nil =>
      by_cases hu : u = []
      · rw [hu]
        rfl
      · have h := startsWord_append (t := []) hu hb
        rwa [List.append_nil] at h
    | cons c after => exact hafter

/-- Texts judged alike are judged alike the other way round. -/
theorem JudgedAlike.symm (h : JudgedAlike s t) : JudgedAlike t s := fun d hd =>
  ⟨(h d hd).1.symm, (h d hd).2.symm⟩

/-- Texts judged like the same text are judged alike. -/
theorem JudgedAlike.trans (h : JudgedAlike s t) (h' : JudgedAlike t u) : JudgedAlike s u :=
  fun d hd => ⟨(h d hd).1.trans (h' d hd).1, (h d hd).2.trans (h' d hd).2⟩

/-- An input is used where its identifier occurs. -/
theorem usedIn_iff : d.usedIn s = true ↔ d.identifier.toList <:+: s := contains_iff_isInfix

/-- Texts that differ **in their gaps** are judged alike. -/
theorem judgedAlike_respaced (h : Respaced s t) : JudgedAlike s t := by
  intro d hd
  refine ⟨madeAfter_respaced hd h, ?_⟩
  rw [Bool.eq_iff_iff, usedIn_iff, usedIn_iff]
  exact h.isInfix_iff (isBlank_of_mem_words hd).2.2 (identifier_ne_nil_of_mem_recognized d hd)

/-- Blanks in front of a text do not count. -/
theorem judgedAlike_blanks_append (hb : ∀ c ∈ u, isBlank c = true) : JudgedAlike (u ++ s) s := by
  intro d hd
  by_cases hu : u = []
  · rw [hu]
    exact ⟨rfl, rfl⟩
  · refine ⟨madeAfter_blanks_append hd hu hb, ?_⟩
    rw [Bool.eq_iff_iff, usedIn_iff, usedIn_iff]
    exact isInfix_blanks_append (isBlank_of_mem_words hd).2.2
      (identifier_ne_nil_of_mem_recognized d hd) hb

/-- Blanks behind a text do not count. -/
theorem judgedAlike_append_blanks (hb : ∀ c ∈ u, isBlank c = true) : JudgedAlike (s ++ u) s := by
  intro d hd
  refine ⟨?_, ?_⟩
  · rw [Bool.eq_iff_iff, declaredIn_iff hd, declaredIn_iff hd]
    exact declares_append_blanks hd hb
  · rw [Bool.eq_iff_iff, usedIn_iff, usedIn_iff]
    exact isInfix_append_blanks (isBlank_of_mem_words hd).2.2
      (identifier_ne_nil_of_mem_recognized d hd) hb

/-- The blanks **at the ends** of a text do not count. -/
theorem judgedAlike_trim (s : List Char) : JudgedAlike (trim s) s := by
  obtain ⟨front, hfront, hs⟩ := exists_blanks_append_trimStart s
  obtain ⟨back, hback, hs'⟩ := exists_trimEnd_append_blanks (trimStart s)
  have hstart := judgedAlike_blanks_append (s := trimStart s) hfront
  have hend := judgedAlike_append_blanks (s := trimEnd (trimStart s)) hback
  rw [← hs] at hstart
  rw [← hs'] at hend
  exact (hstart.trans hend).symm

end ShaderPreview.Declaration
