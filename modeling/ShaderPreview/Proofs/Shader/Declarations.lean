import ShaderPreview.Proofs.Text.Searching
import ShaderPreview.Shader.Repair

/-!
# Missing Declarations

Whether a text makes a declaration is decided between two semicolons: no declaration holds one
before its end, so none reaches across one. The same is true of the use of an identifier. A text can
therefore be judged piece by piece, and putting statements in behind a semicolon changes the
judgement only by what they say themselves.

## Main results

* `Declaration.declaredIn_append_cons`, `Declaration.usedIn_append_cons`: a text is judged in two
  pieces around a semicolon.
* `Declaration.pending_insertions`: once the missing statements are put in behind a semicolon, none
  is missing.
-/

namespace ShaderPreview.Declaration

variable {c : Char} {s t : List Char} {d : Declaration}

/-! ### What a declaration looks at -/

/-- None of the words of a declaration **holds** the character. -/
def Avoids (c : Char) (d : Declaration) : Prop :=
  (∀ word ∈ d.storage, c ∉ word.toList) ∧ c ∉ d.type.toList ∧ c ∉ d.identifier.toList

instance (c : Char) : DecidablePred (Avoids c) := fun _ =>
  inferInstanceAs (Decidable (_ ∧ _ ∧ _))

/-- No word of a recognized declaration holds a semicolon. -/
theorem avoids_of_mem_recognized : ∀ d ∈ recognized, d.Avoids ';' := by decide

/-- A recognized declaration has an identifier. -/
theorem identifier_ne_nil_of_mem_recognized : ∀ d ∈ recognized, d.identifier.toList ≠ [] := by
  decide

/-- What follows the **identifier of a declaration** that is made here, if one is. -/
def after? (d : Declaration) (s : List Char) : Option (List Char) :=
  (Text.eatOne (d.storage.map String.toList) s).bind fun s =>
    (Text.eatBlanks s).bind fun s =>
      (Text.eat d.type.toList (skipQualifier s)).bind fun s =>
        (Text.eatBlanks s).bind (Text.eat d.identifier.toList)

/-- A declaration is made here when no word goes on after its identifier. -/
theorem madeHere_eq (d : Declaration) (s : List Char) :
    d.madeHere s = (d.after? s).elim false fun rest => !startsWord rest := by
  rw [madeHere]
  split
  case h_1 rest hrest =>
    have hafter : d.after? s = some rest := hrest
    rw [hafter]
    rfl
  case h_2 hrest =>
    have hafter : d.after? s = none := hrest
    rw [hafter]
    rfl

/-- Skipping a qualifier does not look past a semicolon. -/
theorem exists_skipQualifier_append_cons (s : List Char) :
    ∃ rest, ∀ t, skipQualifier (s ++ ';' :: t) = rest ++ ';' :: t := by
  have hwords : ∀ word ∈ precisionWords, ';' ∉ word := by decide
  rcases Text.stopsAt_eatOne hwords s with ⟨mid, hw⟩ | hw
  · rcases Text.stopsAt_eatBlanks (c := ';') (by decide) mid with ⟨rest, hb⟩ | hb
    · exact ⟨rest, fun t => by rw [skipQualifier, hw]; simp only [hb, Option.getD_some]⟩
    · exact ⟨s, fun t => by rw [skipQualifier, hw]; simp only [hb, Option.getD_none]⟩
  · exact ⟨s, fun t => by rw [skipQualifier, hw]⟩

/-- A declaration does not look past a semicolon. -/
theorem stopsAt_after? (h : d.Avoids ';') : Text.StopsAt ';' d.after? := by
  obtain ⟨hstorage, htype, hidentifier⟩ := h
  have hblanks : Text.StopsAt ';' Text.eatBlanks := Text.stopsAt_eatBlanks (by decide)
  have hqualified : Text.StopsAt ';' fun s => Text.eat d.type.toList (skipQualifier s) := by
    intro s
    beta_reduce
    obtain ⟨rest, hr⟩ := exists_skipQualifier_append_cons s
    rcases Text.stopsAt_eat htype rest with ⟨last, hl⟩ | hl
    · exact .inl ⟨last, fun t => by rw [hr, hl]⟩
    · exact .inr fun t => by rw [hr, hl]
  refine Text.StopsAt.bind (Text.stopsAt_eatOne ?_)
    (hblanks.bind (hqualified.bind (hblanks.bind (Text.stopsAt_eat hidentifier))))
  simpa using hstorage

/-- Whether a declaration is made here is decided before the next semicolon. -/
theorem madeHere_append_cons (h : d.Avoids ';') (s t : List Char) :
    d.madeHere (s ++ ';' :: t) = d.madeHere (s ++ [';']) := by
  rw [madeHere_eq, madeHere_eq]
  rcases stopsAt_after? h s with ⟨rest, hr⟩ | hr
  · rw [hr t, hr []]
    cases rest <;> rfl
  · rw [hr t, hr []]

/-- No declaration is made where a text goes on with a character that none of its storage words
starts with. -/
theorem madeHere_cons_eq_false (h : ∀ word ∈ d.storage, ¬ word.toList <+: c :: t) :
    d.madeHere (c :: t) = false := by
  have hnone : Text.eatOne (d.storage.map String.toList) (c :: t) = none := by
    rw [Option.eq_none_iff_forall_ne_some]
    intro rest he
    obtain ⟨word, hw, hs⟩ := Text.exists_mem_of_eatOne he
    obtain ⟨name, hname, rfl⟩ := List.mem_map.mp hw
    exact h name hname ⟨rest, hs.symm⟩
  rw [madeHere_eq, after?, hnone]
  rfl

/-- The characters that end a piece: no recognized declaration starts with one, and none is a word
character. -/
theorem madeHere_separator (hd : d ∈ recognized) (hc : c = ';' ∨ c = '\n') (t : List Char) :
    d.madeHere (c :: t) = false := by
  apply madeHere_cons_eq_false
  have hstart : ∀ d ∈ recognized, ∀ word ∈ d.storage,
      word.toList.head? ≠ none ∧ word.toList.head? ≠ some ';' ∧ word.toList.head? ≠ some '\n' := by
    decide
  rintro word hw ⟨rest, hr⟩
  obtain ⟨hnone, hsemi, hfeed⟩ := hstart d hd word hw
  cases hl : word.toList with
  | nil => exact hnone (by rw [hl]; rfl)
  | cons e l =>
    rw [hl, List.cons_append] at hr
    obtain ⟨rfl, -⟩ := List.cons.inj hr
    rw [hl] at hsemi hfeed
    rcases hc with rfl | rfl
    · exact hsemi rfl
    · exact hfeed rfl

/-! ### Judging a text in pieces -/

/-- A declaration is made on one side of a semicolon or on the other, never across it. -/
theorem madeAfter_append_cons (hd : d ∈ recognized) (afterWord : Bool) (s t : List Char) :
    d.madeAfter afterWord (s ++ ';' :: t)
      = (d.madeAfter afterWord (s ++ [';']) || d.declaredIn t) := by
  induction s generalizing afterWord with
  | nil =>
    have hword : Text.isWord ';' = false := by decide
    rw [List.nil_append, List.nil_append, madeAfter, madeAfter, madeHere_separator hd (.inl rfl),
      madeHere_separator hd (.inl rfl), hword, declaredIn]
    simp [madeAfter]
  | cons e s ih =>
    have hsame := madeHere_append_cons (avoids_of_mem_recognized d hd) (e :: s) t
    rw [List.cons_append, List.cons_append] at hsame
    rw [List.cons_append, List.cons_append, madeAfter, madeAfter, hsame, ih, Bool.or_assoc]

/-- A declaration is made on **one side of a semicolon**. -/
theorem declaredIn_append_cons (hd : d ∈ recognized) (s t : List Char) :
    d.declaredIn (s ++ ';' :: t) = (d.declaredIn (s ++ [';']) || d.declaredIn t) :=
  madeAfter_append_cons hd false s t

/-- An identifier is used on **one side of a semicolon**. -/
theorem usedIn_append_cons (hd : d ∈ recognized) (s t : List Char) :
    d.usedIn (s ++ ';' :: t) = (d.usedIn s || d.usedIn t) :=
  Text.contains_append_cons (avoids_of_mem_recognized d hd).2.2
    (identifier_ne_nil_of_mem_recognized d hd)

/-- A line feed in front of a text makes no declaration. -/
theorem declaredIn_lineFeed (hd : d ∈ recognized) (t : List Char) :
    d.declaredIn ('\n' :: t) = d.declaredIn t := by
  have hword : Text.isWord '\n' = false := by decide
  rw [declaredIn, declaredIn, madeAfter, madeHere_separator hd (.inr rfl), hword, Bool.and_false,
    Bool.false_or]

/-- A line feed in front of a text is no use of an identifier. -/
theorem usedIn_lineFeed (hd : d ∈ recognized) (t : List Char) :
    d.usedIn ('\n' :: t) = d.usedIn t := by
  have hfeed : ∀ d ∈ recognized, '\n' ∉ d.identifier.toList := by decide
  have hempty : ∀ d ∈ recognized, d.usedIn [] = false := by decide
  have h := Text.contains_append_cons (s := []) (t := t) (hfeed d hd)
    (identifier_ne_nil_of_mem_recognized d hd)
  rw [List.nil_append] at h
  rw [usedIn, h, show Text.contains d.identifier.toList [] = false from hempty d hd, Bool.false_or]
  rfl

/-! ### Putting statements in -/

/-- The **statements of declarations** as they are put in: each on a line of its own. -/
def insertions (ds : List Declaration) : List Char := ds.flatMap fun d => '\n' :: d.statement.toList

/-- A statement ends with a semicolon. -/
theorem exists_statement_eq (d : Declaration) : ∃ l, d.statement.toList = l ++ [';'] :=
  ⟨_, String.toList_append⟩

/-- A declaration is made in the statements put in or in what follows them. -/
theorem declaredIn_insertions (hd : d ∈ recognized) (ds : List Declaration) (t : List Char) :
    d.declaredIn (insertions ds ++ t)
      = ((ds.any fun e => d.declaredIn ('\n' :: e.statement.toList)) || d.declaredIn t) := by
  induction ds with
  | nil => rfl
  | cons e ds ih =>
    obtain ⟨l, hl⟩ := exists_statement_eq e
    have hsplit : insertions (e :: ds) ++ t = ('\n' :: l) ++ ';' :: (insertions ds ++ t) := by
      simp [insertions, hl]
    rw [hsplit, declaredIn_append_cons hd, ih, List.any_cons, hl, List.cons_append, Bool.or_assoc]

/-- An identifier is used in the statements put in or in what follows them. -/
theorem usedIn_insertions (hd : d ∈ recognized) (ds : List Declaration) (t : List Char) :
    d.usedIn (insertions ds ++ t)
      = ((ds.any fun e => d.usedIn e.statement.toList) || d.usedIn t) := by
  induction ds with
  | nil => rfl
  | cons e ds ih =>
    obtain ⟨l, hl⟩ := exists_statement_eq e
    have hsplit : insertions (e :: ds) ++ t = ('\n' :: l) ++ ';' :: (insertions ds ++ t) := by
      simp [insertions, hl]
    have hlast : d.usedIn e.statement.toList = d.usedIn l := by
      have hempty : ∀ d ∈ recognized, d.usedIn [] = false := by decide
      rw [hl, usedIn_append_cons hd, hempty d hd, Bool.or_false]
    rw [hsplit, usedIn_append_cons hd, usedIn_lineFeed hd, ih, List.any_cons, hlast, Bool.or_assoc]

/-- Nothing is missing exactly when every recognized input that is used is declared. -/
theorem pending_eq_nil_iff :
    pending s = [] ↔ ∀ d ∈ recognized, d.usedIn s = true → d.declaredIn s = true := by
  rw [pending, List.filter_eq_nil_iff]
  refine forall₂_congr fun d _ => ?_
  cases d.usedIn s <;> cases d.declaredIn s <;> decide

/-- Two texts that are **judged alike** by every recognized declaration. -/
def JudgedAlike (s t : List Char) : Prop :=
  ∀ d ∈ recognized, d.declaredIn s = d.declaredIn t ∧ d.usedIn s = d.usedIn t

/-- A text is judged like itself. -/
theorem judgedAlike_refl (s : List Char) : JudgedAlike s s := fun _ _ => ⟨rfl, rfl⟩

/-- A line feed in front of a text makes no difference to any declaration. -/
theorem judgedAlike_lineFeed (s : List Char) : JudgedAlike ('\n' :: s) s := fun _ hd =>
  ⟨declaredIn_lineFeed hd s, usedIn_lineFeed hd s⟩

/-- Once the missing statements are put in behind a semicolon, **none is missing**: each makes its
own declaration, and uses no other identifier. -/
theorem pending_insertions (head : List Char) {tail tail' : List Char}
    (htail : JudgedAlike tail' tail) :
    pending (head ++ ';' :: (insertions (pending (head ++ ';' :: tail)) ++ tail')) = [] := by
  have hown : ∀ d ∈ recognized, d.declaredIn ('\n' :: d.statement.toList) = true := by decide
  have hother : ∀ d ∈ recognized, ∀ e ∈ recognized,
      d.usedIn e.statement.toList = true → d = e := by decide
  rw [pending_eq_nil_iff]
  intro d hd hused
  obtain ⟨hdeclared, huse⟩ := htail d hd
  rw [declaredIn_append_cons hd, declaredIn_insertions hd, hdeclared]
  by_cases hmem : d ∈ pending (head ++ ';' :: tail)
  · -- the statement that was put in makes the declaration
    have hin : (pending (head ++ ';' :: tail)).any
        (fun e => d.declaredIn ('\n' :: e.statement.toList)) = true :=
      List.any_eq_true.mpr ⟨d, hmem, hown d hd⟩
    rw [hin, Bool.true_or, Bool.or_true]
  · -- the identifier was used before, so the declaration was there
    have hnot : (pending (head ++ ';' :: tail)).any
        (fun e => d.usedIn e.statement.toList) = false := by
      rw [List.any_eq_false]
      intro e he hde
      have hmem' : e ∈ recognized := List.mem_of_mem_filter he
      exact hmem (hother d hd e hmem' hde ▸ he)
    rw [usedIn_append_cons hd, usedIn_insertions hd, hnot, Bool.false_or, huse,
      ← usedIn_append_cons hd] at hused
    have hmade : d.declaredIn (head ++ ';' :: tail) = true := by
      by_contra hmade
      exact hmem (List.mem_filter.mpr ⟨hd, by simp [hused, hmade]⟩)
    rw [declaredIn_append_cons hd, Bool.or_eq_true] at hmade
    rcases hmade with hmade | hmade <;> simp [hmade]

end ShaderPreview.Declaration
