import ShaderPreview.Gl.Version
import ShaderPreview.Proofs.Shader.Conservation

/-!
# The Version Line of a Mended Shader

Mending and the device both look for a version line, each in its own way. Mending trims the source
and takes the line without the blanks at its end; the device leaves the source as it is and looks
behind the blanks at its start. What mending gives back has three layouts, one of which is the
source itself, untrimmed. In each of them the device finds the line that mending found, up to the
blanks behind it, or none where mending found none.

## Main definitions

* `Repair.Opens`: a text opens with a line and a precision statement below it.
* `Repair.Headed`: it opens so with a version line, or with the statement if there is no line.

## Main results

* `Repair.headed_mend`: a mended text is headed by the version line of its source.
* `Version.complete_some`: with a configured version, what the device makes of it opens with a
  version line, and the vertex stage of a trial starts with the same one.
* `Version.trialVertex_none`: without one, the vertex stage states a version where the text does.
-/

namespace ShaderPreview

open Text

/-! ### Trimming and putting together -/

namespace Text

variable {s : List Char}

/-- A text is its trimmed form and the blanks at its end, once those at its start are gone. -/
theorem exists_trim_append_blanks (s : List Char) :
    ∃ blanks, (∀ c ∈ blanks, isBlank c = true) ∧ trimStart s = trim s ++ blanks :=
  exists_trimEnd_append_blanks (trimStart s)

/-- What stands behind a text that is not blank is left alone when its start is trimmed. -/
theorem trimStart_append_of_eq {t u : List Char} (ht : t ≠ []) (h : trimStart s = t) :
    trimStart (s ++ u) = t ++ u := by
  obtain ⟨blanks, hblanks, hs⟩ := exists_blanks_append_trimStart s
  rw [hs, List.append_assoc, h]
  refine trimStart_append hblanks ((flushStart_append ht).mpr ?_)
  rw [← h]
  exact flushStart_trimStart s

end Text

namespace Precision

variable {statement tail : List Char}

/-- A statement is no blank text. -/
theorem IsStatement.append_ne_nil (h : IsStatement statement) : statement ++ tail ≠ [] := by
  obtain ⟨l, rfl⟩ := h.exists_eq_cons
  exact List.cons_ne_nil _ _

/-- A statement starts flush. -/
theorem IsStatement.flushStart (h : IsStatement statement) : FlushStart (statement ++ tail) := by
  obtain ⟨l, rfl⟩ := h.exists_eq_cons
  exact flushStart_cons.mpr (by decide)

/-- A statement is no version line. -/
theorem IsStatement.not_isPrefix (h : IsStatement statement) :
    ¬Version.directive <+: statement ++ tail := by
  obtain ⟨l, rfl⟩ := h.exists_eq_cons
  exact fun hp => absurd (List.cons_prefix_cons.mp hp).1 (by decide)

end Precision

/-! ### What the device finds -/

namespace Version

/-- A version is stated where a directive opens the text, apart from blanks. -/
theorem isStated_iff {source : List Char} :
    isStated source = true ↔ directive <+: trimStart source :=
  List.isPrefixOf_iff_prefix

/-- A directive that opens a text is in its first line. -/
theorem isPrefix_firstLine_iff {source : List Char} :
    directive <+: firstLine source ↔ isStated source = true := by
  rw [isStated_iff]
  exact isPrefix_splitLine_iff (by decide)

end Version

/-! ### What mending leaves -/

namespace Repair

open Version

variable {version text : List Char}

/-- A text **opens** with a line and a precision statement below it. Blanks may stand in front of
either. -/
def Opens (line text : List Char) : Prop :=
  '\n' ∉ line ∧ ∃ rest, trimStart text = line ++ '\n' :: rest ∧ Precision.Starts rest

/-- A text is **headed** by a version line: it opens with the line, behind which there may be
blanks, or, where the line is empty, it starts with a precision statement. -/
def Headed (version text : List Char) : Prop :=
  version = [] ∧ Precision.Starts text ∨
    version ≠ [] ∧ ∃ line, Opens line text ∧ trimEnd line = version

/-- A version line is not empty. -/
theorem version_ne_nil {s : List Char} (hp : directive <+: s) : trimEnd (splitLine s).1 ≠ [] := by
  intro hnil
  have hdirective := isPrefix_trimEnd_splitLine hp
  rw [hnil] at hdirective
  exact absurd (List.prefix_nil.mp hdirective) (by decide)

/-- A code below its version line is headed by it. -/
theorem headed_underVersion {statement tail : List Char} (hv : IsVersion version)
    (hs : Precision.IsStatement statement) :
    Headed version (underVersion version (statement ++ tail)) := by
  have hstarts : Precision.Starts (statement ++ tail) :=
    ⟨statement, tail, trimStart_eq_self hs.flushStart, hs⟩
  rcases hv with rfl | ⟨⟨u, rfl⟩, hfeed, hflush⟩
  · exact .inl ⟨rfl, hstarts⟩
  · refine .inr ⟨List.cons_ne_nil _ _, _, ⟨hfeed, _, ?_, hstarts⟩, trimEnd_eq_self hflush⟩
    exact trimStart_eq_self (flushStart_cons.mpr (by decide))

/-- A source whose code starts with a statement is headed by its own version line, also when it is
not trimmed. -/
theorem headed_source {statement tail : List Char} {source : List Char}
    (hs : Precision.IsStatement statement)
    (hsplit : versionSplit (trim source) = (version, statement ++ tail)) :
    Headed version source := by
  obtain ⟨blanks, -, hsource⟩ := exists_trim_append_blanks source
  by_cases hp : directive <+: trim source
  · rw [versionSplit_of_isPrefix hp] at hsplit
    obtain ⟨hversion, hcode⟩ := Prod.mk.inj hsplit
    have hlines := (splitLine_cases (trim source)).resolve_left fun hsingle => by
      rw [hsingle] at hcode
      exact hs.append_ne_nil hcode.symm
    refine .inr ⟨hversion ▸ version_ne_nil hp, (splitLine (trim source)).1, ⟨notMem_splitLine _,
      (splitLine (trim source)).2 ++ blanks, ?_, statement, tail ++ blanks, ?_, hs⟩, hversion⟩
    · rw [hsource, ← List.cons_append, ← List.append_assoc, ← hlines]
    · rw [trimStart_append_of_eq hs.append_ne_nil hcode, List.append_assoc]
  · rw [versionSplit_of_not_isPrefix hp] at hsplit
    obtain ⟨hversion, hcode⟩ := Prod.mk.inj hsplit
    exact .inl ⟨hversion.symm, statement, tail ++ blanks,
      by rw [hsource, hcode, List.append_assoc], hs⟩

/-- A **mended text** is headed by the version line of its source. -/
theorem headed_mend (source : String) {precision : String}
    (h : precision.toList ∈ precisionWords) :
    Headed (versionSplit (trim source.toList)).1 (mend source precision).source.toList := by
  have hv := isVersion_versionSplit (trim source.toList)
  generalize hsplit : versionSplit (trim source.toList) = parts at hv ⊢
  obtain ⟨version, code⟩ := parts
  obtain ⟨-, hmend⟩ | ⟨cut, hcut, hbefore, hmend⟩ | ⟨cut, hcut, -, hmend⟩ :=
    mend_cases source precision hsplit.symm <;> rw [hmend]
  · have hs := Precision.isStatement_statement h
    rw [source_rebuild hs, String.toList_ofList]
    exact headed_underVersion hv hs
  · obtain ⟨hs, rfl⟩ := Precision.find?_eq_some hcut
    rw [hbefore, List.nil_append] at hsplit
    rw [splice]
    split
    · exact headed_source hs hsplit
    · rw [joinLines_statementLines, String.toList_ofList, List.append_assoc, List.append_assoc]
      exact headed_underVersion hv hs
  · obtain ⟨hs, -⟩ := Precision.find?_eq_some hcut
    rw [source_rebuild hs, String.toList_ofList]
    exact headed_underVersion hv hs

/-! ### What the device makes of it -/

/-- The line that a text opens with is the one that the device finds. -/
theorem Opens.firstLine_eq {line : List Char} (h : Opens line text) : firstLine text = line := by
  obtain ⟨hfeed, rest, htext, -⟩ := h
  rw [firstLine, htext, splitLine_append_cons hfeed]

/-- The device finds a version line exactly where there is one. -/
theorem Headed.isStated_iff (h : Headed version text) (hv : IsVersion version) :
    isStated text = true ↔ version ≠ [] := by
  rw [Version.isStated_iff]
  obtain ⟨hnil, statement, tail, htext, hs⟩ | ⟨hne, line, ⟨-, rest, htext, -⟩, hline⟩ := h
  · rw [htext]
    exact iff_of_false hs.not_isPrefix (not_not_intro hnil)
  · obtain ⟨hp, -⟩ := hv.resolve_left hne
    refine iff_of_true ?_ hne
    rw [htext]
    exact (hline ▸ hp).trans ((trimEnd_isPrefix line).trans (List.prefix_append _ _))

end Repair

namespace Version

/-- The numeral of a number is the one that the number is printed as. -/
theorem ofInt_eq_toString (n : Int) : Numeral.ofInt n = toString n := by
  cases n with
  | ofNat n => rfl
  | negSucc n =>
    refine String.toList_injective ?_
    rw [show toString (Int.negSucc n) = "-" ++ Nat.repr (n + 1) from rfl, String.toList_append,
      Nat.toList_repr]
    exact String.toList_ofList

/-- The line of a version is the directive, a blank and the number. -/
theorem line_eq (n : Int) : line n = "#version ".toList ++ (toString n).toList := by
  have hdirective : "#version ".toList = directive ++ [' '] := by decide
  rw [line, ofInt_eq_toString, hdirective, List.append_assoc]
  rfl

/-- A configured version has no line feed in its numeral. -/
theorem notMem_line (n : Int) : '\n' ∉ line n := by
  have hdigits : ∀ m : Nat, '\n' ∉ Nat.toDigits 10 m := fun m hmem =>
    absurd (Nat.isDigit_of_mem_toDigits (by decide) (by decide) hmem) (by decide)
  have hnumeral : '\n' ∉ (Numeral.ofInt n).toList := by
    cases n <;> simp [Numeral.ofInt, hdigits]
  rw [line, List.mem_append, List.mem_cons]
  rintro (hmem | hmem | hmem)
  · exact absurd hmem (by decide)
  · exact absurd hmem (by decide)
  · exact hnumeral hmem

variable {version text : List Char}

/-- A text under a configured version line opens with it. -/
theorem opens_line (n : Int) (h : Precision.Starts text) :
    Repair.Opens (line n) (line n ++ '\n' :: text) :=
  ⟨notMem_line n, text, trimStart_eq_self (flushStart_cons.mpr (by decide)), h⟩

/-- What the device makes of a text **with a configured version** opens with a version line: the
text's own, up to the blanks behind it, or else the configured one. The vertex stage of a trial
starts with the same line. -/
theorem complete_some (h : Repair.Headed version text) (hv : Repair.IsVersion version) (n : Int) :
    ∃ line, Repair.Opens line (complete (some n) text) ∧ directive <+: line ∧
      (version ≠ [] → trimEnd line = version) ∧ (version = [] → line = Version.line n) ∧
      trialVertex (some n) (complete (some n) text) = line ++ '\n' :: plainVertex := by
  have hstated := h.isStated_iff hv
  have htrial : ∀ line t, Repair.Opens line t → directive <+: line →
      trialVertex (some n) t = line ++ '\n' :: plainVertex := fun line t ht hp => by
    rw [trialVertex, ht.firstLine_eq, if_pos (List.isPrefixOf_iff_prefix.mpr hp)]
  obtain ⟨rfl, hstarts⟩ | ⟨hne, line, hline, htrim⟩ := h
  · have hcomplete : complete (some n) text = line n ++ '\n' :: text :=
      if_neg fun hs => absurd rfl (hstated.mp hs)
    have hopens := opens_line n hstarts
    have hdirective : directive <+: line n := List.prefix_append _ _
    rw [hcomplete]
    exact ⟨_, hopens, hdirective, fun hne => absurd rfl hne, fun _ => rfl,
      htrial _ _ hopens hdirective⟩
  · have hcomplete : complete (some n) text = text := if_pos (hstated.mpr hne)
    have hdirective : directive <+: line := by
      rw [← hline.firstLine_eq]
      exact isPrefix_firstLine_iff.mpr (hstated.mpr hne)
    rw [hcomplete]
    exact ⟨line, hline, hdirective, fun _ => htrim, fun hnil => absurd hnil hne,
      htrial _ _ hline hdirective⟩

/-- **Without a configured version** the vertex stage of a trial states a version exactly when the
fragment stage does. -/
theorem trialVertex_none (t : List Char) :
    directive <+: trimStart (trialVertex none t) ↔ directive <+: trimStart t := by
  rw [← @isStated_iff t, ← isPrefix_firstLine_iff]
  by_cases hp : directive <+: firstLine t
  · have htrial : trialVertex none t = firstLine t ++ '\n' :: plainVertex :=
      if_pos (List.isPrefixOf_iff_prefix.mpr hp)
    refine iff_of_true ?_ hp
    obtain ⟨u, hu⟩ := hp
    have hflush : FlushStart (directive ++ (u ++ '\n' :: plainVertex)) :=
      flushStart_cons.mpr (by decide)
    rw [htrial, ← hu, List.append_assoc, trimStart_eq_self hflush]
    exact List.prefix_append _ _
  · have htrial : trialVertex none t = plainVertex :=
      if_neg (mt List.isPrefixOf_iff_prefix.mp hp)
    rw [htrial]
    exact iff_of_false (by decide) hp

end Version

end ShaderPreview
