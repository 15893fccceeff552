import ShaderPreview.Proofs.Shader.NormalForm
import ShaderPreview.Proofs.Text.Spacing

/-!
# What Mending Conserves

Mending sets a text anew: it moves or puts in a precision statement, puts in declarations, and takes
liberties with the white space around them. Everything else has to come through, once each and in
the same order. So the texts are compared **without their blanks**: what comes out is the version
line, the precision statement, the declarations that are reported, and the code, out of which the
leftmost precision statement is cut if there is one.

The parts are those of the text as it stands. Mending looks for them in a text that it has trimmed
piece by piece, which makes no difference, since no precision statement starts with a blank.

## Main definitions

* `Text.unspaced`: a text without its blanks.
* `Precision.IsLeftmost`: the leftmost precision statement of a text.
* `Precision.Starts`: a text starts with a precision statement.
* `Precision.IsDrawn`: the statement that a code gets, and what is left of the code.
* `Repair.headOf`, `Repair.lineOf`, `Repair.codeOf`: the version line of a text and the code below
  it, as they stand.

## Main results

* `Precision.find?_eq_some_iff`, `Precision.find?_eq_none_iff`: the search finds the leftmost
  statement.
* `Repair.unspaced_splice`, `Repair.unspaced_rebuild`: what the two ways of mending conserve.
* `Repair.mend_conserves`: mending loses, doubles and reorders nothing else.
-/

namespace ShaderPreview

namespace Text

variable {s t : List Char}

/-! ### Texts without blanks -/

/-- A text **without its blanks**. -/
def unspaced (s : List Char) : List Char := s.filter (!isBlank ·)

@[simp] theorem unspaced_nil : unspaced [] = [] := rfl

@[simp] theorem unspaced_append (s t : List Char) : unspaced (s ++ t) = unspaced s ++ unspaced t :=
  List.filter_append s t

@[simp] theorem unspaced_lineFeed_cons (s : List Char) : unspaced ('\n' :: s) = unspaced s :=
  List.filter_cons_of_neg (by decide)

/-- Blanks leave nothing. -/
theorem unspaced_eq_nil_iff : unspaced s = [] ↔ ∀ c ∈ s, isBlank c = true := by
  simp only [unspaced, List.filter_eq_nil_iff, Bool.not_eq_true', Bool.not_eq_false]

@[simp] theorem unspaced_trimStart (s : List Char) : unspaced (trimStart s) = unspaced s := by
  obtain ⟨blanks, hblanks, hs⟩ := exists_blanks_append_trimStart s
  conv_rhs => rw [hs, unspaced_append, unspaced_eq_nil_iff.mpr hblanks, List.nil_append]

@[simp] theorem unspaced_trimEnd (s : List Char) : unspaced (trimEnd s) = unspaced s := by
  obtain ⟨blanks, hblanks, hs⟩ := exists_trimEnd_append_blanks s
  conv_rhs => rw [hs, unspaced_append, unspaced_eq_nil_iff.mpr hblanks, List.append_nil]

@[simp] theorem unspaced_trim (s : List Char) : unspaced (trim s) = unspaced s := by
  rw [trim, unspaced_trimEnd, unspaced_trimStart]

/-- Joined lines are the lines one after another. -/
@[simp] theorem unspaced_joinLines (lines : List (List Char)) :
    unspaced (joinLines lines) = lines.flatMap unspaced := by
  cases lines with
  | nil => rfl
  | cons line lines =>
    rw [Repair.joinLines_cons, unspaced_append, List.flatMap_cons]
    congr 1
    induction lines with
    | nil => rfl
    | cons next lines ih =>
      rw [List.flatMap_cons, List.flatMap_cons, unspaced_append, unspaced_lineFeed_cons, ih]

/-- Empty lines make no difference. -/
@[simp] theorem flatMap_unspaced_filter (lines : List (List Char)) :
    (lines.filter (!·.isEmpty)).flatMap unspaced = lines.flatMap unspaced := by
  induction lines with
  | nil => rfl
  | cons line lines ih =>
    cases line with
    | nil => exact ih
    | cons c line => rw [List.filter_cons_of_pos (by rfl), List.flatMap_cons, List.flatMap_cons, ih]

/-- The first line and the rest of a text are the text. -/
theorem unspaced_splitLine (s : List Char) :
    unspaced (splitLine s).1 ++ unspaced (splitLine s).2 = unspaced s := by
  rcases splitLine_cases s with hsingle | hlines
  · rw [hsingle, unspaced_nil, List.append_nil]
  · conv_rhs => rw [hlines, unspaced_append, unspaced_lineFeed_cons]

end Text

open Text

/-! ### The leftmost precision statement -/

namespace Precision

variable {s before statement after : List Char} {qualifier : String}

/-- The **leftmost precision statement** of a text, between what stands before it and after it. -/
structure IsLeftmost (s before statement after : List Char) : Prop where
  text_eq : s = before ++ (statement ++ after)
  isStatement : IsStatement statement
  le_length : ∀ before' statement' after', s = before' ++ (statement' ++ after') →
    IsStatement statement' → before.length ≤ before'.length

/-- A text **starts with a precision statement**, behind blanks or none. -/
def Starts (s : List Char) : Prop :=
  ∃ statement tail, trimStart s = statement ++ tail ∧ IsStatement statement

/-- The search finds the leftmost statement. -/
theorem IsLeftmost.of_find? {cut : Cut} (h : find? s = some cut) :
    IsLeftmost s cut.before cut.statement cut.rest := by
  obtain ⟨hs, htext⟩ := find?_eq_some h
  refine ⟨htext, hs, ?_⟩
  clear hs htext
  induction s generalizing cut with
  | nil => contradiction
  | cons c s ih =>
    intro before' statement' after' htext' hs'
    rw [find?] at h
    split at h
    case h_1 =>
      obtain rfl := Option.some.inj h
      exact Nat.zero_le _
    case h_2 hafter =>
      obtain ⟨inner, hinner, rfl⟩ := Option.map_eq_some_iff.mp h
      cases before' with
      | nil =>
        rw [List.nil_append] at htext'
        rw [after?_eq_some_iff.mpr ⟨statement', hs', htext'⟩] at hafter
        cases hafter
      | cons c' before' =>
        obtain ⟨-, htail⟩ := List.cons.inj htext'
        exact Nat.succ_le_succ (ih hinner before' statement' after' htail hs')

/-- A text has at most one statement at a place. -/
theorem IsStatement.eq_of_append_eq {statement' after' : List Char} (h : IsStatement statement)
    (h' : IsStatement statement') (heq : statement ++ after = statement' ++ after') :
    statement = statement' ∧ after = after' := by
  have hafter := after?_eq_some_iff.mpr ⟨statement', h', heq⟩
  rw [after?_eq_some_iff.mpr ⟨statement, h, rfl⟩] at hafter
  obtain rfl := Option.some.inj hafter
  exact ⟨List.append_cancel_right heq, rfl⟩

/-- Where there is a statement the search finds one. -/
theorem exists_find?_of_append (h : IsStatement statement) :
    ∃ cut, find? (before ++ (statement ++ after)) = some cut := by
  induction before with
  | nil =>
    rw [List.nil_append]
    exact ⟨_, find?_append h⟩
  | cons c before ih =>
    obtain ⟨cut, hcut⟩ := ih
    rw [List.cons_append, find?]
    split
    · exact ⟨_, rfl⟩
    · rw [hcut]
      exact ⟨_, rfl⟩

/-- What the search finds is **the leftmost** statement. -/
theorem find?_eq_some_iff :
    find? s = some ⟨before, statement, after⟩ ↔ IsLeftmost s before statement after := by
  refine ⟨IsLeftmost.of_find?, fun h => ?_⟩
  obtain ⟨cut, hcut⟩ : ∃ cut, find? s = some cut := h.text_eq ▸ exists_find?_of_append h.isStatement
  have h' := IsLeftmost.of_find? hcut
  have hlength : before.length = cut.before.length :=
    Nat.le_antisymm (h.le_length _ _ _ h'.text_eq h'.isStatement)
      (h'.le_length _ _ _ h.text_eq h.isStatement)
  obtain ⟨hbefore, hrest⟩ := List.append_inj (h.text_eq.symm.trans h'.text_eq) hlength
  obtain ⟨hstatement, hafter⟩ := h.isStatement.eq_of_append_eq h'.isStatement hrest
  rw [hcut, hbefore, hstatement, hafter]

/-- The search finds nothing where **no statement** occurs. -/
theorem find?_eq_none_iff :
    find? s = none ↔ ∀ statement, IsStatement statement → ¬statement <:+: s := by
  constructor
  · rintro hnone statement hs ⟨before, after, rfl⟩
    obtain ⟨cut, hcut⟩ : ∃ cut, find? (before ++ (statement ++ after)) = some cut :=
      exists_find?_of_append hs
    rw [List.append_assoc, hcut] at hnone
    cases hnone
  · intro hnone
    cases hcut : find? s with
    | none => rfl
    | some cut =>
      obtain ⟨htext, hs, -⟩ := IsLeftmost.of_find? hcut
      refine absurd ⟨cut.before, cut.rest, ?_⟩ (hnone cut.statement hs)
      rw [htext, List.append_assoc]

/-- Blanks in front of a text stand before all of its statements. -/
theorem find?_blanks_append {blanks : List Char} (hblanks : ∀ c ∈ blanks, isBlank c = true)
    (s : List Char) :
    find? (blanks ++ s) = (find? s).map fun cut => { cut with before := blanks ++ cut.before } := by
  induction blanks with
  | nil =>
    rw [List.nil_append]
    exact Option.map_id'.symm ▸ rfl
  | cons c blanks ih =>
    obtain ⟨hc, hblanks⟩ := List.forall_mem_cons.mp hblanks
    have hafter : after? (c :: (blanks ++ s)) = none := by
      rw [Option.eq_none_iff_forall_ne_some]
      intro rest hrest
      obtain ⟨statement, hs, htext⟩ := after?_eq_some_iff.mp hrest
      obtain ⟨l, rfl⟩ := hs.exists_eq_cons
      obtain ⟨rfl, -⟩ := List.cons.inj htext
      exact absurd hc (by decide)
    rw [List.cons_append, find?, hafter, ih hblanks]
    simp only [Option.map_map]
    rfl

/-- The statement that a code **gets** when it is mended, and what is left of the code: its leftmost
statement, which is cut out, or, where there is none, one of the given precision. -/
inductive IsDrawn (qualifier : String) (code : List Char) : List Char → List Char → Prop
  | found {before statement after : List Char} (h : IsLeftmost code before statement after) :
      IsDrawn qualifier code statement (before ++ after)
  | given (h : ∀ statement, IsStatement statement → ¬statement <:+: code) :
      IsDrawn qualifier code ("precision ".toList ++ qualifier.toList ++ " float;".toList) code

/-- Every code gets a statement. -/
theorem exists_isDrawn (qualifier : String) (code : List Char) :
    ∃ statement body, IsDrawn qualifier code statement body := by
  cases hcut : find? code with
  | none => exact ⟨_, _, .given (find?_eq_none_iff.mp hcut)⟩
  | some cut => exact ⟨_, _, .found (.of_find? hcut)⟩

/-- A code gets the statement that the search finds, if it finds one. -/
theorem isDrawn_iff {code body : List Char} :
    IsDrawn qualifier code statement body ↔
      (find? code = none ∧ statement = Precision.statement qualifier ∧ body = code) ∨
        ∃ cut, find? code = some cut ∧ statement = cut.statement ∧
          body = cut.before ++ cut.rest := by
  constructor
  · rintro (h | h)
    case found => exact .inr ⟨_, find?_eq_some_iff.mpr h, rfl, rfl⟩
    case given => exact .inl ⟨find?_eq_none_iff.mpr h, rfl, rfl⟩
  · rintro (⟨hnone, rfl, rfl⟩ | ⟨cut, hcut, rfl, rfl⟩)
    · exact .given (find?_eq_none_iff.mp hnone)
    · exact .found (.of_find? hcut)

/-- Blanks in front of a code stay in what is left of it. -/
theorem IsDrawn.exists_of_blanks_append {blanks code body : List Char}
    (hblanks : ∀ c ∈ blanks, isBlank c = true)
    (h : IsDrawn qualifier (blanks ++ code) statement body) :
    ∃ body', IsDrawn qualifier code statement body' ∧ body = blanks ++ body' := by
  rw [isDrawn_iff, find?_blanks_append hblanks] at h
  obtain ⟨hnone, rfl, rfl⟩ | ⟨_, hcut, rfl, rfl⟩ := h
  · exact ⟨code, isDrawn_iff.mpr (.inl ⟨Option.map_eq_none_iff.mp hnone, rfl, rfl⟩), rfl⟩
  · obtain ⟨cut, hinner, rfl⟩ := Option.map_eq_some_iff.mp hcut
    exact ⟨_, isDrawn_iff.mpr (.inr ⟨cut, hinner, rfl, rfl⟩), List.append_assoc _ _ _⟩

end Precision

/-! ### The parts of a text -/

namespace Repair

variable {version statement body : List Char} {source precision : String}

/-- The **version line** of a text and the code below it, as they stand. Without a version directive
the line is empty. -/
def headOf (s : List Char) : List Char × List Char :=
  if "#version".toList <+: s then (s.takeWhile (· != '\n'), (s.dropWhile (· != '\n')).drop 1)
  else ([], s)

/-- The version line **of a trimmed source**. -/
def lineOf (source : String) : List Char := (headOf (trim source.toList)).1

/-- The code **of a trimmed source**, below its version line. -/
def codeOf (source : String) : List Char := (headOf (trim source.toList)).2

/-- Where a directive opens a text, its line is the head. -/
theorem headOf_of_isPrefix {s : List Char} (h : "#version".toList <+: s) :
    headOf s = splitLine s :=
  if_pos h

/-- Where none does, the head is empty. -/
theorem headOf_of_not_isPrefix {s : List Char} (h : ¬"#version".toList <+: s) :
    headOf s = ([], s) :=
  if_neg h

/-- The version line and the code are the text. -/
theorem unspaced_headOf (s : List Char) :
    unspaced (headOf s).1 ++ unspaced (headOf s).2 = unspaced s := by
  by_cases hp : "#version".toList <+: s
  · rw [headOf_of_isPrefix hp]
    exact unspaced_splitLine s
  · rw [headOf_of_not_isPrefix hp]
    rfl

/-- Mending takes the two parts without the blanks where they meet. A code that has no version line
above it starts flush anyway, since the text is trimmed. -/
theorem versionSplit_trim (source : String) :
    versionSplit (trim source.toList) = (trimEnd (lineOf source), trimStart (codeOf source)) := by
  rw [lineOf, codeOf]
  by_cases hp : "#version".toList <+: trim source.toList
  · rw [headOf_of_isPrefix hp, versionSplit_of_isPrefix hp]
  · rw [headOf_of_not_isPrefix hp, versionSplit_of_not_isPrefix hp,
      trimStart_eq_self (flushStart_trim _)]
    rfl

/-- A trimmed text, without its blanks, is its two parts as mending takes them. -/
theorem unspaced_parts (source : String) :
    unspaced source.toList = unspaced (trimEnd (lineOf source) ++ trimStart (codeOf source)) := by
  rw [unspaced_append, unspaced_trimEnd, unspaced_trimStart, lineOf, codeOf, unspaced_headOf,
    unspaced_trim]

/-! ### The two ways of mending -/

@[simp] theorem unspaced_underVersion (version code : List Char) :
    unspaced (underVersion version code) = unspaced version ++ unspaced code := by
  rw [underVersion]
  split
  case isTrue h => rw [List.isEmpty_iff.mp h, unspaced_nil, List.nil_append]
  case isFalse => rw [unspaced_append, unspaced_lineFeed_cons]

/-- The statements that were put in, **one after another**. -/
def insertedText (r : Repair) : List Char := r.statements.flatMap String.toList

/-- Apart from blanks, the lines put in are the statements put in. -/
theorem flatMap_unspaced_statementLines (ds : List Declaration) :
    (statementLines ds).flatMap unspaced =
      unspaced ((ds.map (·.statement)).flatMap String.toList) := by
  induction ds with
  | nil => rfl
  | cons d ds ih =>
    rw [statementLines, List.map_cons, List.flatMap_cons, List.map_cons, List.flatMap_cons,
      unspaced_append, ← ih]
    rfl

/-- **Putting declarations in** under a statement that comes first adds them and nothing else. -/
theorem unspaced_splice {cut : Precision.Cut}
    (h : unspaced source.toList = unspaced (version ++ cut.statement ++ cut.rest)) :
    unspaced (splice source version cut).source.toList =
      unspaced (version ++ cut.statement ++ insertedText (splice source version cut)
        ++ cut.rest) := by
  rw [splice]
  split
  case isTrue =>
    rw [insertedText, statements, List.map_nil, List.flatMap_nil, List.append_nil]
    exact h
  case isFalse =>
    simp only [insertedText, statements, String.toList_ofList, unspaced_underVersion,
      unspaced_append, unspaced_joinLines, List.flatMap_cons, flatMap_unspaced_statementLines,
      List.append_assoc]
    -- The gap between the declarations and the rest is a line feed or nothing.
    split <;> simp

/-- **Building a shader anew** out of its parts adds the declarations and nothing else. -/
theorem unspaced_rebuild (version statement body : List Char) (action : PrecisionAction) :
    unspaced (rebuild version statement body action).source.toList =
      unspaced (version ++ statement ++ insertedText (rebuild version statement body action)
        ++ body) := by
  simp only [rebuild, insertedText, statements, String.toList_ofList, unspaced_underVersion,
    unspaced_append, unspaced_joinLines, flatMap_unspaced_filter, List.flatMap_cons,
    List.flatMap_nil, flatMap_unspaced_statementLines, List.append_assoc, List.append_nil]

/-- The ways in which a text can be mended. -/
theorem mend_cases (source precision : String) {version code : List Char}
    (hsplit : (version, code) = versionSplit (trim source.toList)) :
    (Precision.find? code = none ∧
      mend source precision = rebuild version (Precision.statement precision) code .inserted) ∨
    (∃ cut, Precision.find? code = some cut ∧ cut.before = [] ∧
      mend source precision = splice source version cut) ∨
    (∃ cut, Precision.find? code = some cut ∧ cut.before ≠ [] ∧
      mend source precision =
        rebuild version cut.statement (trim (cut.before ++ cut.rest)) .relocated) := by
  simp only [mend, ← hsplit]
  cases Precision.find? code with
  | none => exact .inl ⟨rfl, rfl⟩
  | some cut =>
    by_cases hbefore : cut.before = []
    · exact .inr (.inl ⟨cut, rfl, hbefore, if_pos (List.isEmpty_iff.mpr hbefore)⟩)
    · exact .inr (.inr ⟨cut, rfl, hbefore, if_neg (mt List.isEmpty_iff.mp hbefore)⟩)

/-- What is put in under a statement that comes first is recognized, and the statement is kept. -/
theorem splice_reports (source : String) (version : List Char) (cut : Precision.Cut) :
    (splice source version cut).declarations.Sublist Declaration.recognized ∧
      (splice source version cut).precision = .kept := by
  rw [splice]
  split
  · exact ⟨List.nil_sublist _, rfl⟩
  · exact ⟨List.filter_sublist, rfl⟩

/-- The declarations that are reported are some of the recognized ones, in their order. -/
theorem declarations_mend_sublist (source precision : String) :
    (mend source precision).declarations.Sublist Declaration.recognized := by
  obtain ⟨-, h⟩ | ⟨_, -, -, h⟩ | ⟨_, -, -, h⟩ := mend_cases source precision (Prod.eta _) <;> rw [h]
  · exact List.filter_sublist
  · exact (splice_reports _ _ _).1
  · exact List.filter_sublist

/-- Mending conserves the text as it is taken apart. -/
theorem unspaced_mend
    (hdrawn : Precision.IsDrawn precision (trimStart (codeOf source)) statement body) :
    unspaced (mend source precision).source.toList = unspaced
      (trimEnd (lineOf source) ++ statement ++ insertedText (mend source precision) ++ body) := by
  rw [Precision.isDrawn_iff] at hdrawn
  obtain ⟨hnone, hmend⟩ | ⟨cut, hcut, hbefore, hmend⟩ | ⟨cut, hcut, -, hmend⟩ :=
    mend_cases source precision (versionSplit_trim source).symm
  · obtain ⟨-, rfl, rfl⟩ | ⟨cut, hcut, -⟩ := hdrawn
    · rw [hmend, unspaced_rebuild]
    · rw [hnone] at hcut
      cases hcut
  all_goals
    obtain ⟨hnone, -⟩ | ⟨cut', hcut', rfl, rfl⟩ := hdrawn
    · rw [hcut] at hnone
      cases hnone
    obtain rfl : cut = cut' := Option.some.inj (hcut.symm.trans hcut')
    rw [hmend]
  · have htext := (Precision.find?_eq_some hcut).2
    rw [hbefore, List.nil_append] at htext ⊢
    apply unspaced_splice
    rw [unspaced_parts, htext, List.append_assoc]
  · rw [unspaced_rebuild, unspaced_append, unspaced_trim, ← unspaced_append]

/-- A statement is put in exactly where the code has none. -/
theorem precision_mend_eq_inserted_iff (source precision : String) :
    (mend source precision).precision = .inserted ↔
      Precision.find? (trimStart (codeOf source)) = none := by
  obtain ⟨hnone, hmend⟩ | ⟨cut, hcut, -, hmend⟩ | ⟨cut, hcut, -, hmend⟩ :=
    mend_cases source precision (versionSplit_trim source).symm
  · exact iff_of_true (hmend ▸ rfl) hnone
  · rw [hmend, (splice_reports _ _ _).2, hcut]
    simp
  · rw [hmend, hcut]
    simp [rebuild]

/-- A statement is moved exactly where it does not come first. -/
theorem precision_mend_eq_relocated_iff (source precision : String) :
    (mend source precision).precision = .relocated ↔
      ∃ cut, Precision.find? (trimStart (codeOf source)) = some cut ∧ cut.before ≠ [] := by
  obtain ⟨hnone, hmend⟩ | ⟨cut, hcut, hbefore, hmend⟩ | ⟨cut, hcut, hbefore, hmend⟩ :=
    mend_cases source precision (versionSplit_trim source).symm
  · rw [hmend, hnone]
    simp [rebuild]
  · rw [hmend, (splice_reports _ _ _).2, hcut]
    simp [hbefore]
  · exact iff_of_true (hmend ▸ rfl) ⟨cut, hcut, hbefore⟩

/-- **Mending conserves the text**. Up to the blanks, what comes out is the version line of the
trimmed text, its leftmost precision statement or one of the given precision, the declarations that
are reported, and what is left of the code: nothing is lost, doubled or put elsewhere, whatever the
layout of the text. The declarations are some of the recognized ones, in their order. A statement is
reported as put in exactly where the code has none, and as moved exactly where something other than
blanks stands before the leftmost one. -/
theorem mend_conserves (source precision : String) :
    (∃ statement body, Precision.IsDrawn precision (codeOf source) statement body) ∧
      (∀ statement body, Precision.IsDrawn precision (codeOf source) statement body →
        unspaced (mend source precision).source.toList = unspaced
          (lineOf source ++ statement ++ insertedText (mend source precision) ++ body)) ∧
      (mend source precision).statements.Sublist (Declaration.recognized.map (·.statement)) ∧
      ((mend source precision).precision = .inserted ↔
        ∀ statement, Precision.IsStatement statement → ¬statement <:+: codeOf source) ∧
      ((mend source precision).precision = .relocated ↔ ∃ before statement after,
        Precision.IsLeftmost (codeOf source) before statement after ∧
          ∃ c ∈ before, isBlank c = false) := by
  obtain ⟨blanks, hblanks, hcode⟩ := exists_blanks_append_trimStart (codeOf source)
  have hfind := Precision.find?_blanks_append hblanks (trimStart (codeOf source))
  rw [← hcode] at hfind
  refine ⟨Precision.exists_isDrawn _ _, fun statement body hdrawn => ?_,
    (declarations_mend_sublist source precision).map _, ?_, ?_⟩
  · rw [hcode] at hdrawn
    obtain ⟨inner, hinner, rfl⟩ := hdrawn.exists_of_blanks_append hblanks
    have h := unspaced_mend hinner
    simpa only [unspaced_append, unspaced_trimEnd, unspaced_eq_nil_iff.mpr hblanks,
      List.nil_append] using h
  · rw [precision_mend_eq_inserted_iff, ← Precision.find?_eq_none_iff, hfind,
      Option.map_eq_none_iff]
  · rw [precision_mend_eq_relocated_iff]
    constructor
    · rintro ⟨cut, hcut, hbefore⟩
      rw [hcut] at hfind
      refine ⟨_, _, _, .of_find? hfind, ?_⟩
      obtain ⟨c, before, hcons⟩ := List.exists_cons_of_ne_nil hbefore
      have hflush := flushStart_trimStart (codeOf source)
      rw [(Precision.find?_eq_some hcut).2, hcons, List.cons_append, flushStart_cons] at hflush
      exact ⟨c, by simp [hcons], hflush⟩
    · rintro ⟨before, statement, after, hleftmost, c, hc, hblank⟩
      rw [Precision.find?_eq_some_iff.mpr hleftmost] at hfind
      obtain ⟨cut, hcut, heq⟩ := Option.map_eq_some_iff.mp hfind.symm
      obtain rfl : blanks ++ cut.before = before := congrArg Precision.Cut.before heq
      refine ⟨cut, hcut, fun hnil => ?_⟩
      rw [hnil, List.append_nil] at hc
      rw [hblanks c hc] at hblank
      cases hblank

end Repair

end ShaderPreview
