import ShaderPreview.Proofs.Text.Trimming
import ShaderPreview.Text.Search

/-!
# What Searching and Eating Look At

A literal occurs in a text when it is an infix of it, and eating a literal takes off a prefix.
Neither looks past a character that can be no part of what it wants: a text is searched piece by
piece between two such characters, and an eater that comes to one has come to its end whatever
follows.

## Main definitions

* `Text.StopsAt`: an eater that does not look past a character.

## Main results

* `Text.contains_iff_isInfix`: a literal occurs in a text exactly when it is an infix.
* `Text.contains_append_cons`: a literal without a character occurs on one side of it.
* `Text.StopsAt.bind`: eaters that stop at a character stop there one after another.
* `Text.splitLine_cases`: a text has one line or a line and something below it.
-/

namespace ShaderPreview.Text

variable {literal s t u : List Char} {c : Char}

/-! ### Occurrence -/

/-- A literal **occurs** in a text exactly when it is an infix of it. -/
theorem contains_iff_isInfix : contains literal s = true ↔ literal <:+: s := by
  induction s with
  | nil => simp [contains, cut?]
  | cons c s ih =>
    rw [List.infix_cons_iff, ← ih, contains, cut?]
    by_cases h : literal.isPrefixOf (c :: s) = true
    · simp [h, List.isPrefixOf_iff_prefix.mp h]
    · have hp : ¬ literal <+: c :: s := fun hp => h (List.isPrefixOf_iff_prefix.mpr hp)
      simp [h, hp, contains]

/-- A prefix that lacks a character ends before it. -/
theorem isPrefix_append_cons (h : c ∉ literal) : literal <+: s ++ c :: t ↔ literal <+: s := by
  induction s generalizing literal with
  | nil =>
    cases literal with
    | nil => simp
    | cons d literal =>
      obtain ⟨hd, -⟩ := not_or.mp (mt List.mem_cons.mpr h)
      simp [Ne.symm hd]
  | cons e s ih =>
    cases literal with
    | nil => simp
    | cons d literal =>
      obtain ⟨-, hl⟩ := not_or.mp (mt List.mem_cons.mpr h)
      rw [List.cons_append, List.cons_prefix_cons, List.cons_prefix_cons, ih hl]

/-- An infix that lacks a character lies on one side of it. -/
theorem isInfix_append_cons (h : c ∉ literal) (hne : literal ≠ []) :
    literal <:+: s ++ c :: t ↔ literal <:+: s ∨ literal <:+: t := by
  induction s with
  | nil =>
    have hp : ¬ literal <+: c :: t := by
      intro hp
      rw [← List.nil_append (c :: t), isPrefix_append_cons h] at hp
      exact hne (List.prefix_nil.mp hp)
    simp [List.infix_cons_iff, hp, hne]
  | cons d s ih =>
    rw [List.cons_append, List.infix_cons_iff, ih, List.infix_cons_iff, ← List.cons_append,
      isPrefix_append_cons h, or_assoc]

/-- A literal that lacks a character **occurs on one side** of it. -/
theorem contains_append_cons (h : c ∉ literal) (hne : literal ≠ []) :
    contains literal (s ++ c :: t) = (contains literal s || contains literal t) := by
  rw [Bool.eq_iff_iff, Bool.or_eq_true, contains_iff_isInfix, contains_iff_isInfix,
    contains_iff_isInfix, isInfix_append_cons h hne]

/-! ### Eating -/

/-- Eating a literal takes it off the front. -/
theorem eat_eq_some_iff : eat literal s = some t ↔ s = literal ++ t := by
  rw [eat]
  constructor
  · intro h
    split at h
    case isTrue hp =>
      obtain ⟨u, rfl⟩ := List.isPrefixOf_iff_prefix.mp hp
      rw [List.drop_left] at h
      rw [Option.some.inj h]
    case isFalse => contradiction
  · rintro rfl
    have hp : literal.isPrefixOf (literal ++ t) = true :=
      List.isPrefixOf_iff_prefix.mpr (List.prefix_append literal t)
    rw [if_pos hp, List.drop_left]

/-- Eating blanks takes all of them off the front. -/
theorem eatBlanks_eq_some_iff :
    eatBlanks s = some t ↔
      ∃ blanks, blanks ≠ [] ∧ (∀ c ∈ blanks, isBlank c = true) ∧ FlushStart t ∧
        s = blanks ++ t := by
  constructor
  · intro h
    cases s with
    | nil => contradiction
    | cons c s =>
      rw [eatBlanks] at h
      split at h
      case isTrue hc =>
        obtain ⟨blanks, hb, hs⟩ := exists_blanks_append_trimStart s
        obtain rfl := Option.some.inj h
        refine ⟨c :: blanks, List.cons_ne_nil _ _, ?_, flushStart_trimStart s, ?_⟩
        · exact List.forall_mem_cons.mpr ⟨hc, hb⟩
        · rw [List.cons_append, ← hs]
      case isFalse => contradiction
  · rintro ⟨blanks, hne, hb, ht, rfl⟩
    obtain ⟨c, blanks, rfl⟩ := List.exists_cons_of_ne_nil hne
    obtain ⟨hc, hb⟩ := List.forall_mem_cons.mp hb
    rw [List.cons_append, eatBlanks, if_pos hc, trimStart_append hb ht]

/-- What is eaten of several words is one of them. -/
theorem exists_mem_of_eatOne {words : List (List Char)} (h : eatOne words s = some t) :
    ∃ word ∈ words, s = word ++ t := by
  obtain ⟨word, hw, he⟩ := List.exists_of_findSome?_eq_some h
  exact ⟨word, hw, eat_eq_some_iff.mp he⟩

/-! ### Stopping at a character -/

/-- An eater **stops at** a character when it does not look past it: before the character it either
leaves something, the same whatever follows, or it finds nothing whatever follows. -/
def StopsAt (c : Char) (eater : List Char → Option (List Char)) : Prop :=
  ∀ s, (∃ rest, ∀ t, eater (s ++ c :: t) = some (rest ++ c :: t)) ∨
    ∀ t, eater (s ++ c :: t) = none

/-- Eaters that stop at a character stop there **one after another**. -/
theorem StopsAt.bind {f g : List Char → Option (List Char)} (hf : StopsAt c f)
    (hg : StopsAt c g) : StopsAt c fun s => (f s).bind g := by
  intro s
  beta_reduce
  rcases hf s with ⟨rest, hs⟩ | hs
  · rcases hg rest with ⟨last, hr⟩ | hr
    · exact .inl ⟨last, fun t => by rw [hs, Option.bind_some, hr]⟩
    · exact .inr fun t => by rw [hs, Option.bind_some, hr]
  · exact .inr fun t => by rw [hs, Option.bind_none]

/-- Eating a literal stops at a character that is no part of it. -/
theorem stopsAt_eat (h : c ∉ literal) : StopsAt c (eat literal) := by
  intro s
  by_cases hp : literal <+: s
  · obtain ⟨rest, rfl⟩ := hp
    exact .inl ⟨rest, fun t => by rw [eat_eq_some_iff, List.append_assoc]⟩
  · refine .inr fun t => ?_
    rw [Option.eq_none_iff_forall_ne_some]
    intro rest he
    have hl : literal <+: s ++ c :: t := ⟨rest, (eat_eq_some_iff.mp he).symm⟩
    exact hp ((isPrefix_append_cons h).mp hl)

/-- Eating one of several words stops at a character that is in none of them. -/
theorem stopsAt_eatOne {words : List (List Char)} (h : ∀ word ∈ words, c ∉ word) :
    StopsAt c (eatOne words) := by
  intro s
  induction words with
  | nil => exact .inr fun t => rfl
  | cons word words ih =>
    obtain ⟨hw, hws⟩ := List.forall_mem_cons.mp h
    simp only [eatOne, List.findSome?_cons] at ih ⊢
    rcases stopsAt_eat hw s with ⟨rest, hs⟩ | hs
    · exact .inl ⟨rest, fun t => by rw [hs]⟩
    · simp only [hs]
      exact ih hws

/-- Trimming goes on to a character that is not blank at most. -/
theorem exists_trimStart_append_cons (h : isBlank c = false) (s : List Char) :
    ∃ rest, ∀ t, trimStart (s ++ c :: t) = rest ++ c :: t := by
  induction s with
  | nil => exact ⟨[], fun t => trimStart_eq_self (flushStart_cons.mpr h)⟩
  | cons d s ih =>
    by_cases hd : isBlank d = true
    · obtain ⟨rest, hr⟩ := ih
      refine ⟨rest, fun t => ?_⟩
      rw [List.cons_append, trimStart, List.dropWhile_cons_of_pos hd]
      exact hr t
    · refine ⟨d :: s, fun t => ?_⟩
      rw [List.cons_append]
      exact trimStart_eq_self (flushStart_cons.mpr (Bool.eq_false_iff.mpr hd))

/-- Eating blanks stops at a character that is not blank. -/
theorem stopsAt_eatBlanks (h : isBlank c = false) : StopsAt c eatBlanks := by
  intro s
  cases s with
  | nil => exact .inr fun t => by rw [List.nil_append, eatBlanks, h]; rfl
  | cons d s =>
    by_cases hd : isBlank d = true
    · obtain ⟨rest, hr⟩ := exists_trimStart_append_cons h s
      exact .inl ⟨rest, fun t => by rw [List.cons_append, eatBlanks, if_pos hd, hr]⟩
    · exact .inr fun t => by rw [List.cons_append, eatBlanks, if_neg hd]

/-! ### First lines -/

/-- A line is split off at its line feed. -/
theorem splitLine_append_cons {line rest : List Char} (h : '\n' ∉ line) :
    splitLine (line ++ '\n' :: rest) = (line, rest) := by
  have hkeep : ∀ c ∈ line, (c != '\n') = true := fun c hc => bne_iff_ne.mpr fun heq => h (heq ▸ hc)
  rw [splitLine, List.takeWhile_append_of_pos hkeep, List.dropWhile_append_of_pos hkeep,
    List.takeWhile_cons_of_neg (by simp), List.dropWhile_cons_of_neg (by simp), List.append_nil]
  rfl

/-- The first line of a text holds no line feed. -/
theorem notMem_splitLine (s : List Char) : '\n' ∉ (splitLine s).1 := fun hmem => by
  simpa using List.mem_takeWhile_imp hmem

/-- A text is a single line, or its first line with a line feed and the rest below. -/
theorem splitLine_cases (s : List Char) :
    splitLine s = (s, []) ∨ s = (splitLine s).1 ++ '\n' :: (splitLine s).2 := by
  have hwhole : s.takeWhile (· != '\n') ++ s.dropWhile (· != '\n') = s :=
    List.takeWhile_append_dropWhile
  cases hdrop : s.dropWhile (· != '\n') with
  | nil =>
    rw [hdrop, List.append_nil] at hwhole
    exact .inl (by rw [splitLine, hdrop, hwhole]; rfl)
  | cons c rest =>
    have hfeed : c = '\n' := by
      have hhead := List.head?_dropWhile_not (· != '\n') s
      rw [hdrop] at hhead
      simpa using hhead
    obtain rfl := hfeed
    have hsplit : splitLine s = (s.takeWhile (· != '\n'), rest) := by rw [splitLine, hdrop]; rfl
    rw [hdrop] at hwhole
    exact .inr (by rw [hsplit, hwhole])

/-- A literal without line feeds that opens a text opens its first line. -/
theorem isPrefix_splitLine_iff (h : '\n' ∉ literal) :
    literal <+: (splitLine s).1 ↔ literal <+: s := by
  refine ⟨fun hp => hp.trans (List.takeWhile_prefix _), ?_⟩
  rintro ⟨u, rfl⟩
  have hkeep : ∀ c ∈ literal, (c != '\n') = true := fun c hc =>
    bne_iff_ne.mpr fun heq => h (heq ▸ hc)
  rw [splitLine, List.takeWhile_append_of_pos hkeep]
  exact List.prefix_append _ _

end ShaderPreview.Text
