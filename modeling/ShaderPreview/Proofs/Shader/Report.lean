import ShaderPreview.Proofs.Shader.Conservation
import ShaderPreview.Proofs.Shader.Grammar

/-!
# What Mending Reports

Mending scans a text of its own making: the version line without the blanks behind it, a line feed,
and the code without the blanks around it. What it says is meant of the texts that go in and come
out. The two agree, since the spacing of a text has no influence on what it declares and uses. So a
text is **in order**, as it stands, exactly when it is in normal form; mending puts every text in
order, and it reports a change exactly when it makes one.

## Main definitions

* `Repair.InOrder`: a precision statement comes first below the version line, and what is used is
  declared.

## Main results

* `Repair.isNormal_iff`: a text is in normal form exactly when it is in order as it stands.
* `Repair.changed_mend_eq_false_iff`: no change is reported exactly of the texts in normal form.
* `Repair.mend_reports_change`: mending puts a text in order and says whether it changed it.
-/

namespace ShaderPreview.Repair

open Text

variable {text source precision : String} {s : List Char}

/-- A text is **in order**: the code below its version line starts with a precision statement, and
each recognized identifier that occurs in the text is declared in it. -/
structure InOrder (text : String) : Prop where
  starts : Precision.Starts (codeOf text)
  declares : ∀ d ∈ Declaration.recognized, d.identifier.toList <:+: text.toList →
    d.Declares text.toList

/-! ### The text that is scanned -/

/-- What is scanned of a trimmed text is judged like the text itself. -/
theorem judgedAlike_versionSplit (h : FlushEnd s) :
    Declaration.JudgedAlike ((versionSplit s).1 ++ '\n' :: (versionSplit s).2) s := by
  have hfeed : ∀ c ∈ ['\n'], isBlank c = true := List.forall_mem_singleton.mpr (by decide)
  by_cases hp : "#version".toList <+: s
  · rw [versionSplit_of_isPrefix hp]
    rcases splitLine_cases s with hsingle | hlines
    · -- the version line is all there is, and nothing blank stands behind it
      rw [hsingle, trimEnd_eq_self h]
      exact Declaration.judgedAlike_append_blanks hfeed
    · generalize splitLine s = parts at hlines ⊢
      obtain ⟨line, rest⟩ := parts
      obtain ⟨back, hback, hline⟩ := exists_trimEnd_append_blanks line
      obtain ⟨front, hfront, hrest⟩ := exists_blanks_append_trimStart rest
      have hgap : ∀ c ∈ back ++ '\n' :: front, isBlank c = true := by
        rw [List.forall_mem_append, List.forall_mem_cons]
        exact ⟨hback, by decide, hfront⟩
      have hs : s = trimEnd line ++ ((back ++ '\n' :: front) ++ trimStart rest) := by
        rw [List.append_assoc, ← List.append_assoc, ← hline, List.cons_append, ← hrest]
        exact hlines
      have hspaced := (Respaced.gap (List.cons_ne_nil _ []) (by simp) hfeed hgap
        (.refl (trimStart rest))).append (trimEnd line)
      rw [← hs] at hspaced
      exact Declaration.judgedAlike_respaced hspaced
  · rw [versionSplit_of_not_isPrefix hp]
    exact Declaration.judgedAlike_lineFeed s

/-- A text is in normal form exactly when it is **in order as it stands**. -/
theorem isNormal_iff : IsNormal text ↔ InOrder text := by
  have halike := (judgedAlike_versionSplit (flushEnd_trim text.toList)).trans
    (Declaration.judgedAlike_trim text.toList)
  have hpending : Declaration.pending ((versionSplit (trim text.toList)).1 ++
      '\n' :: (versionSplit (trim text.toList)).2) = [] ↔
        ∀ d ∈ Declaration.recognized, d.identifier.toList <:+: text.toList →
          d.Declares text.toList := by
    rw [Declaration.pending_eq_nil_iff]
    refine forall₂_congr fun d hd => ?_
    obtain ⟨hdeclared, hused⟩ := halike d hd
    rw [hdeclared, hused, Declaration.declaredIn_iff hd, Declaration.usedIn_iff]
  rw [versionSplit_trim] at hpending
  constructor
  · rintro ⟨version, statement, rest, hsplit, hs, hp⟩
    obtain ⟨rfl, hcode⟩ := Prod.mk.inj ((versionSplit_trim text).symm.trans hsplit)
    rw [hcode] at hpending
    exact ⟨⟨statement, rest, hcode, hs⟩, hpending.mp hp⟩
  · rintro ⟨⟨statement, rest, hcode, hs⟩, hdeclares⟩
    rw [hcode] at hpending
    exact ⟨_, statement, rest, by rw [versionSplit_trim, hcode], hs, hpending.mpr hdeclares⟩

/-! ### The report -/

/-- No change is reported exactly of a text that is **in normal form** already. -/
theorem changed_mend_eq_false_iff : (mend source precision).changed = false ↔ IsNormal source := by
  constructor
  · intro h
    rw [mend] at h
    generalize hsplit : versionSplit (trim source.toList) = parts at h
    obtain ⟨version, code⟩ := parts
    simp only at h
    split at h
    case h_1 cut hcut =>
      obtain ⟨hs, rfl⟩ := Precision.find?_eq_some hcut
      split at h
      case isTrue hbefore =>
        obtain ⟨before, statement, rest⟩ := cut
        obtain rfl := List.isEmpty_iff.mp hbefore
        rw [splice] at h
        split at h
        case isTrue hp => exact ⟨version, statement, rest, hsplit, hs, List.isEmpty_iff.mp hp⟩
        case isFalse hp =>
          -- what was missing is reported
          rw [changed, Bool.eq_false_iff.mpr hp] at h
          cases h
      case isFalse => cases h
    case h_2 => cases h
  · intro h
    rw [mend_of_isNormal h]
    rfl

/-- Mending puts every text **in order**. It reports no change exactly of a text that is in order
already, which comes back as it is, and a change exactly where the text that comes back is another
one. -/
theorem mend_reports_change (source : String) {precision : String}
    (h : precision.toList ∈ precisionWords) :
    let r := mend source precision
    InOrder r.source ∧ (r.changed = false ↔ InOrder source) ∧
      (r.changed = false → r.source = source) ∧ (r.changed = true ↔ r.source ≠ source) := by
  intro r
  have horder : InOrder r.source := isNormal_iff.mp (isNormal_mend source h)
  have hsame : r.changed = false ↔ InOrder source := changed_mend_eq_false_iff.trans isNormal_iff
  have hback : r.changed = false → r.source = source := by
    intro hchanged
    have hnormal : IsNormal source := changed_mend_eq_false_iff.mp hchanged
    rw [show r = _ from mend_of_isNormal hnormal precision]
  refine ⟨horder, hsame, hback, ?_⟩
  constructor
  · -- a text that comes back as it was is in order, and then nothing is reported
    intro hchanged heq
    rw [heq] at horder
    rw [hsame.mpr horder] at hchanged
    cases hchanged
  · intro hne
    by_contra hchanged
    exact hne (hback (Bool.eq_false_iff.mpr hchanged))

/-- A precision statement that moves up **to the version line** is a change, though no character but
line feeds comes or goes, and so is a declaration that was missing. There it ends: what comes out is
in order, and mending it changes nothing. -/
theorem mend_reports_change_moved :
    let late := "\n#version 300 es\nuniform float time;precision lowp float;"
    let moved := mend late "highp"
    let again := mend moved.source "mediump"
    let undeclared := mend "precision lowp float;\nx = time;" "highp"
    moved.source = "#version 300 es\nprecision lowp float;\nuniform float time;" ∧
      moved.changed = true ∧ InOrder moved.source ∧
      again.changed = false ∧ again.source = moved.source ∧
      undeclared.source = "precision lowp float;\nuniform float time;\nx = time;" ∧
      undeclared.changed = true ∧ InOrder undeclared.source := by
  intro late moved again undeclared
  obtain ⟨horder, -, -, hchange⟩ := @mend_reports_change late "highp" (by decide)
  obtain ⟨-, hsame, hback, -⟩ := @mend_reports_change moved.source "mediump" (by decide)
  obtain ⟨hdeclared, -, -, hchange'⟩ :=
    @mend_reports_change "precision lowp float;\nx = time;" "highp" (by decide)
  have hsource : moved.source = "#version 300 es\nprecision lowp float;\nuniform float time;" := by
    decide +kernel
  have hchanged : moved.changed = true := hchange.mpr (by rw [hsource]; decide)
  have hsource' : undeclared.source =
      "precision lowp float;\nuniform float time;\nx = time;" := by
    decide +kernel
  have hchanged' : undeclared.changed = true := hchange'.mpr (by rw [hsource']; decide)
  exact ⟨hsource, hchanged, horder, hsame.mpr horder, hback (hsame.mpr horder), hsource',
    hchanged', hdeclared⟩

end ShaderPreview.Repair
