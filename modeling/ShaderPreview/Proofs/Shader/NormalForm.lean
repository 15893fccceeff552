import ShaderPreview.Proofs.Shader.Declarations

/-!
# The Normal Form of Fragment Shaders

A fragment shader is in **normal form** when a precision statement opens the code below its version
line and no recognized input is used without a declaration. Mending brings every text into normal
form, and leaves a text alone that is in normal form, whatever precision it is told to put in. So
mending a second time does nothing.

What mending puts together is read back as the same parts: a version line has no line feed and no
blank at its end, and the code starts with a precision statement and ends with a character that is
no blank.

## Main definitions

* `Precision.IsStatement`: the texts that are precision statements.
* `Repair.IsNormal`: the normal form.

## Main results

* `Precision.after?_eq_some_iff`: what follows a precision statement at the start of a text.
* `Repair.mend_of_isNormal`: mending leaves a text in normal form alone.
* `Repair.isNormal_mend`: mending brings a text into normal form.
* `Repair.mend_mend`: mending twice is mending once.
-/

namespace ShaderPreview

open Text

/-! ### Precision statements -/

namespace Precision

variable {s t : List Char}

/-- The texts that **are precision statements**: the word, a qualifier and the type, the first two
followed by blanks, and a semicolon, before which blanks may stand. -/
inductive IsStatement : List Char → Prop
  | intro {gap gap' gap'' qualifier : List Char}
      (gap_ne : gap ≠ []) (blank : ∀ c ∈ gap, isBlank c = true)
      (mem : qualifier ∈ precisionWords)
      (gap_ne' : gap' ≠ []) (blank' : ∀ c ∈ gap', isBlank c = true)
      (blank'' : ∀ c ∈ gap'', isBlank c = true) :
      IsStatement
        ("precision".toList ++ gap ++ qualifier ++ gap' ++ "float".toList ++ gap'' ++ [';'])

/-- A precision qualifier is read off the start of a text as it is. -/
theorem eatOne_precisionWords {qualifier : List Char} (h : qualifier ∈ precisionWords) :
    eatOne precisionWords (qualifier ++ t) = some t := by
  simp only [precisionWords, List.mem_cons, List.not_mem_nil, or_false] at h
  rcases h with rfl | rfl | rfl <;> rfl

/-- No blank stands before a precision qualifier. -/
theorem flushStart_qualifier {qualifier : List Char} (h : qualifier ∈ precisionWords) :
    FlushStart (qualifier ++ t) := by
  simp only [precisionWords, List.mem_cons, List.not_mem_nil, or_false] at h
  rcases h with rfl | rfl | rfl <;> exact flushStart_cons.mpr (by decide)

/-- What **follows a precision statement** that starts a text. -/
theorem after?_eq_some_iff : after? s = some t ↔ ∃ st, IsStatement st ∧ s = st ++ t := by
  simp only [after?, Option.bind_eq_bind, Option.bind_eq_some_iff, eat_eq_some_iff,
    eatBlanks_eq_some_iff]
  constructor
  · rintro ⟨_, rfl, _, ⟨gap, hne, hb, -, rfl⟩, _, hw, _, ⟨gap', hne', hb', -, rfl⟩, u, rfl, hu⟩
    obtain ⟨qualifier, hmem, rfl⟩ := exists_mem_of_eatOne hw
    obtain ⟨gap'', hb'', hu'⟩ := exists_blanks_append_trimStart u
    refine ⟨_, .intro hne hb hmem hne' hb' hb'', ?_⟩
    rw [hu', hu]
    simp only [List.append_assoc]
  · rintro ⟨st, ⟨hne, hb, hmem, hne', hb', hb''⟩, rfl⟩
    simp only [List.append_assoc]
    refine ⟨_, rfl, _, ⟨_, hne, hb, flushStart_qualifier hmem, rfl⟩, _,
      eatOne_precisionWords hmem, _, ⟨_, hne', hb', ?_, rfl⟩, _, rfl, ?_⟩
    · exact flushStart_cons.mpr (by decide)
    · exact trimStart_append hb'' (flushStart_cons.mpr (by decide))

/-- A precision statement opens with the letter of its first word. -/
theorem IsStatement.exists_eq_cons (h : IsStatement s) : ∃ l, s = 'p' :: l := by
  cases h
  exact ⟨_, rfl⟩

/-- A precision statement ends with its semicolon. -/
theorem IsStatement.exists_eq_concat (h : IsStatement s) : ∃ l, s = l ++ [';'] := by
  cases h
  exact ⟨_, rfl⟩

/-- A statement of one of the qualifiers is a precision statement. -/
theorem isStatement_statement {qualifier : String} (h : qualifier.toList ∈ precisionWords) :
    IsStatement (statement qualifier) := by
  have hspace : ∀ c ∈ [' '], isBlank c = true := List.forall_mem_singleton.mpr (by decide)
  have hword : "precision ".toList = "precision".toList ++ [' '] := by decide
  have htype : " float;".toList = [' '] ++ "float".toList ++ [] ++ [';'] := by decide
  have heq : statement qualifier = "precision".toList ++ [' '] ++ qualifier.toList ++ [' ']
      ++ "float".toList ++ [] ++ [';'] := by
    unfold statement
    rewrite [hword, htype]
    simp only [List.append_assoc]
  have hne : [' '] ≠ [] := List.cons_ne_nil _ _
  have hnil : ∀ c ∈ ([] : List Char), isBlank c = true := List.forall_mem_nil _
  rw [heq]
  exact IsStatement.intro hne hspace h hne hspace hnil

/-- A text that starts with a statement is cut there. -/
theorem find?_append (h : IsStatement s) : find? (s ++ t) = some ⟨[], s, t⟩ := by
  have hafter : after? (s ++ t) = some t := after?_eq_some_iff.mpr ⟨s, h, rfl⟩
  obtain ⟨l, rfl⟩ := h.exists_eq_cons
  have htake : ('p' :: l ++ t).take (('p' :: l ++ t).length - t.length) = 'p' :: l := by
    rw [List.length_append, Nat.add_sub_cancel, List.take_left]
  rw [List.cons_append] at hafter htake ⊢
  rw [find?, hafter]
  exact congrArg (fun st => some (Cut.mk [] st t)) htake

/-- A cut takes out a precision statement and loses nothing. -/
theorem find?_eq_some {cut : Cut} (h : find? s = some cut) :
    IsStatement cut.statement ∧ s = cut.before ++ (cut.statement ++ cut.rest) := by
  induction s generalizing cut with
  | nil => contradiction
  | cons c s ih =>
    rw [find?] at h
    split at h
    case h_1 rest hafter =>
      obtain ⟨st, hst, hs⟩ := after?_eq_some_iff.mp hafter
      obtain rfl := Option.some.inj h
      have htake : (c :: s).take ((c :: s).length - rest.length) = st := by
        rw [hs, List.length_append, Nat.add_sub_cancel, List.take_left]
      simp only [htake]
      exact ⟨hst, hs⟩
    case h_2 =>
      obtain ⟨inner, hinner, rfl⟩ := Option.map_eq_some_iff.mp h
      obtain ⟨hst, hs⟩ := ih hinner
      exact ⟨hst, congrArg (c :: ·) hs⟩

end Precision

/-! ### Version lines -/

namespace Repair

variable {version code statement tail : List Char}

/-- The texts that can stand as a **version line**, the empty one where there is none. -/
def IsVersion (version : List Char) : Prop :=
  version = [] ∨ "#version".toList <+: version ∧ '\n' ∉ version ∧ FlushEnd version

/-- Where a version line opens a text, it is split off and both parts are trimmed where they met. -/
theorem versionSplit_of_isPrefix {s : List Char} (h : "#version".toList <+: s) :
    versionSplit s = (trimEnd (splitLine s).1, trimStart (splitLine s).2) := by
  rw [versionSplit, if_pos (List.isPrefixOf_iff_prefix.mpr h)]

/-- Where none does, nothing is split off. -/
theorem versionSplit_of_not_isPrefix {s : List Char} (h : ¬ "#version".toList <+: s) :
    versionSplit s = ([], s) := by
  rw [versionSplit, if_neg (mt List.isPrefixOf_iff_prefix.mp h)]

/-- A directive that opens a text opens its first line, also without the blanks behind it. -/
theorem isPrefix_trimEnd_splitLine {s : List Char} (h : "#version".toList <+: s) :
    "#version".toList <+: trimEnd (splitLine s).1 := by
  have hlast : "#version".toList = "#versio".toList ++ ['n'] := by decide
  have hflush : FlushEnd "#version".toList := by
    rw [hlast]
    exact flushEnd_concat.mpr (by decide)
  obtain ⟨u, hline⟩ := (isPrefix_splitLine_iff (by decide)).mpr h
  rw [← hline]
  exact isPrefix_trimEnd_append hflush

/-- The version line of a text is one. -/
theorem isVersion_versionSplit (s : List Char) : IsVersion (versionSplit s).1 := by
  by_cases hp : "#version".toList <+: s
  · rw [versionSplit_of_isPrefix hp]
    exact .inr ⟨isPrefix_trimEnd_splitLine hp,
      fun hmem => notMem_splitLine s ((trimEnd_isPrefix _).subset hmem), flushEnd_trimEnd _⟩
  · rw [versionSplit_of_not_isPrefix hp]
    exact .inl rfl

/-- The code below the version line keeps the end of the text. -/
theorem flushEnd_versionSplit {s : List Char} (h : FlushEnd s) : FlushEnd (versionSplit s).2 := by
  by_cases hp : "#version".toList <+: s
  · rw [versionSplit_of_isPrefix hp]
    have hsuffix : (splitLine s).2 <:+ s :=
      (List.drop_suffix 1 _).trans (List.dropWhile_suffix _)
    exact h.of_isSuffix ((trimStart_isSuffix _).trans hsuffix)
  · rw [versionSplit_of_not_isPrefix hp]
    exact h

/-- A code that starts with a statement is read back from below its version line. -/
theorem versionSplit_underVersion (hv : IsVersion version) (hs : Precision.IsStatement statement) :
    versionSplit (underVersion version (statement ++ tail)) = (version, statement ++ tail) := by
  obtain ⟨l, rfl⟩ := hs.exists_eq_cons
  rcases hv with rfl | ⟨hp, hfeed, hflush⟩
  · refine versionSplit_of_not_isPrefix fun hp => ?_
    exact absurd (List.cons_prefix_cons.mp hp).1 (by decide)
  · have hne : version.isEmpty = false := by
      obtain ⟨u, rfl⟩ := hp
      rfl
    rw [underVersion, if_neg (by simp [hne]),
      versionSplit_of_isPrefix (hp.trans (List.prefix_append _ _)), splitLine_append_cons hfeed,
      trimEnd_eq_self hflush, trimStart_eq_self]
    exact flushStart_cons.mpr (by decide)

/-- A code that starts with a statement is flush below its version line. -/
theorem trim_underVersion (hv : IsVersion version) (hs : Precision.IsStatement statement)
    (he : FlushEnd (statement ++ tail)) :
    trim (underVersion version (statement ++ tail)) = underVersion version (statement ++ tail) := by
  obtain ⟨l, rfl⟩ := hs.exists_eq_cons
  rcases hv with rfl | ⟨⟨u, rfl⟩, -, -⟩
  · exact trim_eq_self (flushStart_cons.mpr (by decide)) he
  · refine trim_eq_self (flushStart_cons.mpr (by decide)) ?_
    have hne : '\n' :: ('p' :: l ++ tail) ≠ [] := List.cons_ne_nil _ _
    rw [underVersion, if_neg (by simp), flushEnd_append hne,
      ← List.singleton_append, flushEnd_append (by simp)]
    exact he

/-! ### The normal form -/

/-- A text in **normal form**: a precision statement opens the code below the version line, and
every recognized input that the text uses is declared. -/
def IsNormal (text : String) : Prop :=
  ∃ version statement rest, versionSplit (trim text.toList) = (version, statement ++ rest) ∧
    Precision.IsStatement statement ∧
    Declaration.pending (version ++ '\n' :: (statement ++ rest)) = []

/-- Mending leaves a text in normal form **alone**, whatever precision it is told to put in. -/
theorem mend_of_isNormal {text : String} (h : IsNormal text) (precision : String) :
    mend text precision = { source := text } := by
  obtain ⟨version, statement, rest, hsplit, hs, hpending⟩ := h
  rw [mend, hsplit]
  simp only [Precision.find?_append hs, List.isEmpty_nil, if_true, splice, hpending]

/-- What is put together from a version line and a code that starts with a statement and misses
nothing is in normal form. -/
theorem isNormal_underVersion (hv : IsVersion version) (hs : Precision.IsStatement statement)
    (he : FlushEnd (statement ++ tail))
    (hp : Declaration.pending (version ++ '\n' :: (statement ++ tail)) = []) :
    IsNormal (String.ofList (underVersion version (statement ++ tail))) := by
  refine ⟨version, statement, tail, ?_, hs, hp⟩
  rw [String.toList_ofList, trim_underVersion hv hs he, versionSplit_underVersion hv hs]

/-- A statement with declarations put in behind it is flush at its end. -/
theorem flushEnd_insertions (hs : Precision.IsStatement statement) (ds : List Declaration) :
    FlushEnd (statement ++ Declaration.insertions ds) := by
  have hsemicolon : isBlank ';' = false := by decide
  induction ds using List.reverseRecOn with
  | nil =>
    obtain ⟨l, rfl⟩ := hs.exists_eq_concat
    rw [Declaration.insertions, List.flatMap_nil, List.append_nil]
    exact flushEnd_concat.mpr hsemicolon
  | append_singleton ds d =>
    obtain ⟨l, hl⟩ := d.exists_statement_eq
    rw [Declaration.insertions, List.flatMap_append, List.flatMap_singleton, hl, ← List.cons_append,
      ← List.append_assoc, ← List.append_assoc]
    exact flushEnd_concat.mpr hsemicolon

/-- With the missing declarations put in under its precision statement a text is in normal form. -/
theorem isNormal_insertions {tail' : List Char} (hv : IsVersion version)
    (hs : Precision.IsStatement statement) (he : FlushEnd tail')
    (halike : Declaration.JudgedAlike tail' tail) :
    IsNormal (String.ofList (underVersion version (statement ++ (Declaration.insertions
      (Declaration.pending (version ++ '\n' :: (statement ++ tail))) ++ tail')))) := by
  refine isNormal_underVersion hv hs ?_ ?_
  · by_cases htail : tail' = []
    · rw [htail, List.append_nil]
      exact flushEnd_insertions hs _
    · rw [← List.append_assoc, flushEnd_append htail]
      exact he
  · obtain ⟨l, rfl⟩ := hs.exists_eq_concat
    have h := Declaration.pending_insertions (version ++ '\n' :: l) halike
    simpa only [List.append_assoc, List.cons_append, List.nil_append] using h

/-! ### Mending -/

/-- Lines after the first are joined with a line feed in front of each. -/
theorem joinLines_cons (line : List Char) (lines : List (List Char)) :
    joinLines (line :: lines) = line ++ lines.flatMap ('\n' :: ·) := by
  induction lines generalizing line with
  | nil => simp [joinLines]
  | cons next lines ih =>
    have hnext := ih next
    rw [joinLines] at hnext ⊢
    rw [List.intercalate_cons_cons, hnext]
    simp

/-- Declarations joined to a line are put in behind it. -/
theorem joinLines_statementLines (line : List Char) (ds : List Declaration) :
    joinLines (line :: statementLines ds) = line ++ Declaration.insertions ds := by
  rw [joinLines_cons, statementLines, List.flatMap_map, Declaration.insertions]

/-- A body **on a line of its own**, if there is one. -/
def below (body : List Char) : List Char := if body.isEmpty then [] else '\n' :: body

/-- A body that does not end with a blank does not do so on a line of its own. -/
theorem flushEnd_below {body : List Char} (h : FlushEnd body) : FlushEnd (below body) := by
  rw [below]
  split
  case isTrue => exact flushEnd_nil
  case isFalse hne =>
    have hne : body ≠ [] := fun h => hne (by rw [h]; rfl)
    rw [← List.singleton_append, flushEnd_append hne]
    exact h

/-- Whether a body stands on a line of its own makes no difference to any declaration. -/
theorem judgedAlike_below (body : List Char) :
    Declaration.JudgedAlike (below body) ('\n' :: body) := by
  intro d hd
  obtain ⟨hdeclared, hused⟩ := Declaration.judgedAlike_lineFeed body d hd
  rw [below]
  split
  case isTrue he =>
    obtain rfl := List.isEmpty_iff.mp he
    exact ⟨hdeclared.symm, hused.symm⟩
  case isFalse => exact ⟨rfl, rfl⟩

/-- A statement, the missing declarations and a body, put together without empty lines between
them. -/
theorem joinLines_filter (hs : Precision.IsStatement statement) (ds : List Declaration)
    (body : List Char) :
    joinLines ([statement, joinLines (statementLines ds), body].filter (!·.isEmpty))
      = statement ++ (Declaration.insertions ds ++ below body) := by
  obtain ⟨l, rfl⟩ := hs.exists_eq_cons
  have hbody : ∀ line : List Char,
      joinLines (line :: [body].filter (!·.isEmpty)) = line ++ below body := by
    intro line
    rw [joinLines_cons, below]
    cases body <;> simp
  cases ds with
  | nil => exact hbody ('p' :: l)
  | cons d ds =>
    have hlines : joinLines (statementLines (d :: ds))
        = d.statement.toList ++ Declaration.insertions ds :=
      joinLines_statementLines d.statement.toList ds
    have hne : (d.statement.toList ++ Declaration.insertions ds).isEmpty = false := by
      obtain ⟨l, hl⟩ := d.exists_statement_eq
      rw [hl]
      simp
    rw [hlines, List.filter_cons_of_pos (by rfl), List.filter_cons_of_pos (by simp [hne]),
      joinLines_cons, List.flatMap_cons, ← joinLines_cons _ _, hbody]
    simp [Declaration.insertions]

/-- The text of a rebuilt shader: the statement, the missing declarations and the body, each on a
line of its own. -/
theorem source_rebuild (hs : Precision.IsStatement statement) (body : List Char)
    (action : PrecisionAction) :
    (rebuild version statement body action).source =
      String.ofList (underVersion version (statement ++ (Declaration.insertions
        (Declaration.pending (version ++ '\n' :: (statement ++ '\n' :: body))) ++
          below body))) := by
  have hscan : version ++ '\n' :: statement ++ '\n' :: body
      = version ++ '\n' :: (statement ++ '\n' :: body) := by
    rw [List.append_assoc, List.cons_append]
  rw [rebuild, hscan]
  exact congrArg (fun code => String.ofList (underVersion version code))
    (joinLines_filter hs _ body)

/-- Putting declarations in under a statement brings a text into normal form: what follows the
statement goes on as it was, or on a line of its own. -/
theorem isNormal_splice {source : String} (hv : IsVersion version)
    (hs : Precision.IsStatement statement) (he : FlushEnd (statement ++ tail))
    (hsplit : versionSplit (trim source.toList) = (version, statement ++ tail)) :
    IsNormal (splice source version ⟨[], statement, tail⟩).source := by
  rw [splice]
  split
  case isTrue hp =>
    exact ⟨version, statement, tail, hsplit, hs, List.isEmpty_iff.mp hp⟩
  case isFalse =>
    have htail : FlushEnd tail := he.of_isSuffix (List.suffix_append statement tail)
    simp only [joinLines_statementLines, List.append_assoc]
    split
    · exact isNormal_insertions hv hs htail (Declaration.judgedAlike_refl tail)
    case isFalse hline =>
      have hne : tail ≠ [] := by
        rintro rfl
        exact hline rfl
      refine isNormal_insertions hv hs ?_ (Declaration.judgedAlike_lineFeed tail)
      rw [← List.singleton_append, flushEnd_append hne]
      exact htail

/-- Rebuilding brings a text into normal form. -/
theorem isNormal_rebuild {body : List Char} (hv : IsVersion version)
    (hs : Precision.IsStatement statement) (he : FlushEnd body) (action : PrecisionAction) :
    IsNormal (rebuild version statement body action).source := by
  rw [source_rebuild hs]
  exact isNormal_insertions hv hs (flushEnd_below he) (judgedAlike_below body)

/-- Mending brings every text into **normal form**. -/
theorem isNormal_mend (source : String) {precision : String}
    (h : precision.toList ∈ precisionWords) : IsNormal (mend source precision).source := by
  have hv := isVersion_versionSplit (trim source.toList)
  have he := flushEnd_versionSplit (flushEnd_trim source.toList)
  rw [mend]
  generalize hsplit : versionSplit (trim source.toList) = parts at hv he
  obtain ⟨version, code⟩ := parts
  simp only
  split
  case h_1 cut hcut =>
    obtain ⟨hs, rfl⟩ := Precision.find?_eq_some hcut
    split
    case isTrue hbefore =>
      obtain ⟨before, statement, rest⟩ := cut
      obtain rfl := List.isEmpty_iff.mp hbefore
      exact isNormal_splice hv hs he hsplit
    case isFalse => exact isNormal_rebuild hv hs (flushEnd_trim _) .relocated
  case h_2 => exact isNormal_rebuild hv (Precision.isStatement_statement h) he .inserted

/-- Mending **twice is mending once**: the second time nothing is done, whatever precision is to be
put in. -/
theorem mend_mend (source again : String) {precision : String}
    (h : precision.toList ∈ precisionWords) :
    let once := (mend source precision).source
    mend once again = { source := once } ∧ (mend once again).changed = false := by
  intro once
  have hagain : mend once again = { source := once } :=
    mend_of_isNormal (isNormal_mend source h) again
  exact ⟨hagain, by rw [hagain]; rfl⟩

/-- A shader whose precision statement comes late is mended once and for all. -/
theorem mend_mend_late :
    let late := "#version 130\nvarying vec3 vNormal; time; precision lowp float;"
    let once := (mend late "highp").source
    once = "#version 130\nprecision lowp float;\nuniform float time;\nvarying vec3 vNormal; time;" ∧
      mend once "none" = { source := once } ∧ (mend once "none").changed = false :=
  ⟨by decide +kernel, mend_mend _ "none" (by decide)⟩

end Repair

end ShaderPreview
