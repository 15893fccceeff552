import ShaderPreview.Geometry.Shape
import ShaderPreview.Proofs.Text.Casing
import ShaderPreview.Proofs.Text.Spacing
import ShaderPreview.Shader.Bundle

/-!
# Tags

A tag is read by a pattern: its opening, then blanks, then a word. A pattern says nothing of how
many blanks and how many word characters it takes, nor which of several places in a text it takes.
Here it makes no difference how it is read. No blank is a word character, so that all the blanks
have to be taken, and what is taken of the word is a beginning of one longest word. The **tag of a
text** is the longest word at the leftmost place that has any.

What the shape means is decided by this word alone, up to the case of its ASCII letters. The word is
put in lower case twice on its way, and trimmed, with all of Unicode in view; still no other
spelling of a shape's name is taken for it.

## Main definitions

* `Bundle.TagAt`: a way to read a tag at a place of a text.
* `Bundle.TagOf`: the tag of a text, if it has one.
* `Shape.MeantBy`: the shape that a tag means.

## Main results

* `Bundle.tagOf_tagWord?`: what is found is the tag of the text.
* `Bundle.TagOf.unique`: a text has one tag at most.
* `Shape.meantBy_ofName`: the name of a tag stands for the shape that the tag means.
-/

namespace ShaderPreview

open Text

namespace Bundle

variable {text word : List Char} {tag tag' : Option (List Char)} {place : Nat} {c : Char}

/-! ### Reading a tag -/

/-- A word **can be read as a tag** at a place of a text: there are the opening, any blanks, and the
word, which has a character at least. Nothing says that all the word characters are taken that stand
there. -/
structure TagAt (text : List Char) (place : Nat) (word : List Char) : Prop where
  stands : ∃ blanks, (∀ c ∈ blanks, isBlank c = true) ∧
    tagMarker.toList ++ blanks ++ word <+: text.drop place
  letters : ∀ c ∈ word, isWord c = true
  ne_nil : word ≠ []

/-- The **tag of a text**: the word that is read at the leftmost place that has a reading, of which
all that can be read there is a beginning. A text without any reading has no tag. -/
def TagOf (text : List Char) : Option (List Char) → Prop
  | some word => ∃ place, TagAt text place word ∧
      (∀ other word', TagAt text other word' → place ≤ other) ∧
        ∀ word', TagAt text place word' → word' <+: word
  | none => ∀ place word, ¬TagAt text place word

/-- A text has **one tag** at most. -/
theorem TagOf.unique (h : TagOf text tag) (h' : TagOf text tag') : tag = tag' := by
  cases tag with
  | none =>
    cases tag' with
    | none => rfl
    | some word' =>
      obtain ⟨place', hread', -⟩ := h'
      exact absurd hread' (h place' word')
  | some word =>
    obtain ⟨place, hread, hleft, hlong⟩ := h
    cases tag' with
    | none => exact absurd hread (h' place word)
    | some word' =>
      obtain ⟨place', hread', hleft', hlong'⟩ := h'
      obtain rfl : place = place' :=
        Nat.le_antisymm (hleft place' word' hread') (hleft' place word hread)
      have hsame : word.length = word'.length :=
        Nat.le_antisymm (hlong' word hread).length_le (hlong word' hread').length_le
      rw [(hlong' word hread).eq_of_length hsame]

/-! ### Looking at one place -/

/-- A word after blanks is what is left when they are trimmed. -/
theorem trimStart_blanks_append {blanks : List Char} (hb : ∀ c ∈ blanks, isBlank c = true)
    (hw : ∀ c ∈ word, isWord c = true) (hne : word ≠ []) (rest : List Char) :
    trimStart (blanks ++ (word ++ rest)) = word ++ rest := by
  refine trimStart_append hb ((flushStart_append hne).mpr fun c hc => ?_)
  exact isBlank_of_isWord (hw c (List.mem_of_mem_head? hc))

/-- Of what is found at a place all that can be read there is a beginning. -/
theorem TagAt.isPrefix (h : TagAt text place word) :
    ∃ longest, tagWordHere? (text.drop place) = some longest ∧ word <+: longest := by
  obtain ⟨⟨blanks, hb, rest, hrest⟩, hw, hne⟩ := h
  have heat : eat tagMarker.toList (text.drop place) = some (blanks ++ (word ++ rest)) := by
    rw [eat_eq_some_iff, ← hrest]
    simp only [List.append_assoc]
  have hprefix : word <+: (word ++ rest).takeWhile isWord := by
    rw [List.takeWhile_append_of_pos hw]
    exact List.prefix_append _ _
  refine ⟨_, ?_, hprefix⟩
  rw [tagWordHere?, heat]
  dsimp only
  rw [trimStart_blanks_append hb hw hne]
  obtain ⟨c, word, rfl⟩ := List.exists_cons_of_ne_nil hne
  obtain ⟨t, ht⟩ := hprefix
  rw [← ht]
  rfl

/-- What is found at a place is read there. -/
theorem tagAt_of_tagWordHere? (h : tagWordHere? (text.drop place) = some word) :
    TagAt text place word := by
  rw [tagWordHere?] at h
  cases heat : eat tagMarker.toList (text.drop place) with
  | none => rw [heat] at h; cases h
  | some rest =>
    rw [heat] at h
    dsimp only at h
    obtain ⟨blanks, hb, hrest⟩ := exists_blanks_append_trimStart rest
    have hword : (trimStart rest).takeWhile isWord = word ∧ word ≠ [] := by
      split at h
      case h_1 => cases h
      case h_2 hne =>
        obtain rfl := Option.some.inj h
        exact ⟨rfl, hne⟩
    obtain ⟨rfl, hne⟩ := hword
    refine ⟨⟨blanks, hb, ?_⟩, fun c hc => List.mem_takeWhile_imp hc, hne⟩
    have hprefix : blanks ++ (trimStart rest).takeWhile isWord <+: blanks ++ trimStart rest :=
      (List.prefix_append_right_inj blanks).mpr (List.takeWhile_prefix isWord)
    rw [← hrest] at hprefix
    rw [eat_eq_some_iff.mp heat, List.append_assoc]
    exact (List.prefix_append_right_inj _).mpr hprefix

/-! ### The leftmost place -/

/-- A tag stands one place further on in a text that is one character longer. -/
theorem tagAt_succ : TagAt (c :: text) (place + 1) word ↔ TagAt text place word :=
  ⟨fun h => ⟨h.stands, h.letters, h.ne_nil⟩, fun h => ⟨h.stands, h.letters, h.ne_nil⟩⟩

/-- What is found at the start of a text is its tag. -/
theorem TagOf.here (h : tagWordHere? text = some word) : TagOf text (some word) := by
  refine ⟨0, tagAt_of_tagWordHere? h, fun _ _ _ => Nat.zero_le _, fun word' hread => ?_⟩
  obtain ⟨longest, hlongest, hprefix⟩ := hread.isPrefix
  rw [List.drop_zero, h] at hlongest
  rwa [← Option.some.inj hlongest] at hprefix

/-- Where nothing is found at the start the tag lies beyond. -/
theorem TagOf.beyond (h : tagWordHere? (c :: text) = none) (htag : TagOf text tag) :
    TagOf (c :: text) tag := by
  have hzero : ∀ word, ¬TagAt (c :: text) 0 word := by
    intro word hread
    obtain ⟨longest, hlongest, -⟩ := hread.isPrefix
    rw [List.drop_zero, h] at hlongest
    cases hlongest
  cases tag with
  | none =>
    intro place word hread
    cases place with
    | zero => exact hzero word hread
    | succ place => exact htag place word (tagAt_succ.mp hread)
  | some word =>
    obtain ⟨place, hread, hleft, hlong⟩ := htag
    refine ⟨place + 1, tagAt_succ.mpr hread, fun other word' hother => ?_, fun word' hother =>
      hlong word' (tagAt_succ.mp hother)⟩
    cases other with
    | zero => exact absurd hother (hzero word')
    | succ other => exact Nat.succ_le_succ (hleft other word' (tagAt_succ.mp hother))

/-- What is found in a text is **its tag**. -/
theorem tagOf_tagWord? (text : List Char) : TagOf text (tagWord? text) := by
  induction text with
  | nil =>
    intro place word hread
    obtain ⟨blanks, -, hprefix⟩ := hread.stands
    rw [List.drop_nil, List.prefix_nil] at hprefix
    cases hprefix
  | cons c text ih =>
    rw [tagWord?]
    cases hhere : tagWordHere? (c :: text) with
    | some word => exact .here hhere
    | none => exact ih.beyond hhere

/-- The shape's name that a bundle is taken apart with is that of the whole text. -/
theorem shapeName_of_split {bundle : String} {sections : Sections}
    (h : split bundle = .ok sections) : sections.shapeName = shapeName bundle := by
  rw [split] at h
  split at h <;> try cases h
  split at h
  · cases h
  · cases h
    rfl

end Bundle

/-! ### What a tag means -/

namespace Shape

variable {word : List Char} {tag : Option (List Char)} {shape shape' : Shape}

/-- The **shape that a tag means**: the one with a name that is the tag's word, up to the case of
ASCII letters. Every other word, and no tag, means the cube. -/
inductive MeantBy : Option (List Char) → Shape → Prop
  | named {word : List Char} {name : String} {shape : Shape} (hmem : (name, shape) ∈ named)
      (hword : SameLetters word name.toList) : MeantBy (some word) shape
  | other {word : List Char} (h : ∀ entry ∈ named, ¬SameLetters word entry.1.toList) :
      MeantBy (some word) .cube
  | untagged : MeantBy none .cube

/-- The names of the shapes are plain and in lower case. -/
theorem named_isPlain : ∀ entry ∈ named,
    (∀ c ∈ entry.1.toList, IsPlain c) ∧ entry.1.toList.map Char.toLower = entry.1.toList := by
  have hnames : (named.all fun entry => (entry.1.toList.all fun c => decide (IsPlain c)) &&
      entry.1.toList.map Char.toLower == entry.1.toList) = true := by decide +kernel
  simpa only [List.all_eq_true, Bool.and_eq_true, decide_eq_true_eq, beq_iff_eq] using hnames

/-- A name is looked up among the shapes' names. -/
theorem lookup_of_mem_named : ∀ entry ∈ named, named.lookup entry.1 = some entry.2 := by
  simp only [named, List.forall_mem_cons]
  exact ⟨rfl, rfl, rfl, rfl, rfl, fun _ h => absurd h List.not_mem_nil⟩

/-- A tag **means one shape**. -/
theorem MeantBy.unique (h : MeantBy tag shape) (h' : MeantBy tag shape') : shape = shape' := by
  cases h with
  | untagged => cases h'; rfl
  | other hnone =>
    cases h' with
    | other => rfl
    | named hmem hword => exact absurd hword (hnone _ hmem)
  | @named word name _ hmem hword =>
    cases h' with
    | other hnone => exact absurd hword (hnone _ hmem)
    | @named _ name' _ hmem' hword' =>
      have hletters : name.toList = name'.toList := by
        rw [← (named_isPlain _ hmem).2, ← (named_isPlain _ hmem').2]
        exact hword.symm.trans hword'
      obtain rfl : name = name' := String.toList_inj.mp hletters
      exact Option.some.inj ((lookup_of_mem_named _ hmem).symm.trans (lookup_of_mem_named _ hmem'))

/-- A word in lower case looks up a name, up to the case of its ASCII letters. -/
theorem lowered_eq_iff (hword : ∀ c ∈ word, isWord c = true) {entry : String × Shape}
    (hentry : entry ∈ named) :
    String.ofList (lowerCase (trim (lowerCase word))) = entry.1 ↔
      SameLetters word entry.1.toList := by
  have hblank : ∀ c ∈ word, isBlank c = false := fun c hc => isBlank_of_isWord (hword c hc)
  obtain ⟨hplain, hlower⟩ := named_isPlain entry hentry
  rw [trim_lowerCase hblank, SameLetters, hlower, ← lowerCase_lowerCase_eq_iff hplain,
    ← String.toList_inj, String.toList_ofList]

/-- The name of a tag **stands for** the shape that the tag means. -/
theorem meantBy_ofName {text : String} (h : Bundle.TagOf text.toList tag) :
    MeantBy tag (ofName (some (Bundle.shapeName text))) := by
  have htag := (Bundle.tagOf_tagWord? text.toList).unique h
  rw [Bundle.shapeName, htag]
  cases tag with
  | none => exact .untagged
  | some word =>
    obtain ⟨place, hread, -⟩ := h
    rw [ofName, String.toList_ofList]
    by_cases hnamed : ∃ entry ∈ named, SameLetters word entry.1.toList
    · obtain ⟨entry, hentry, hsame⟩ := hnamed
      rw [(lowered_eq_iff hread.letters hentry).mpr hsame, lookup_of_mem_named entry hentry]
      exact .named hentry hsame
    · have hother : ∀ entry ∈ named, ¬SameLetters word entry.1.toList := fun entry hentry hsame =>
        hnamed ⟨entry, hentry, hsame⟩
      have hlookup : named.lookup (String.ofList (lowerCase (trim (lowerCase word)))) = none := by
        refine List.lookup_eq_none_iff.mpr fun entry hentry => bne_iff_ne.mpr fun heq => ?_
        exact hother entry hentry ((lowered_eq_iff hread.letters hentry).mp heq)
      rw [hlookup]
      exact .other hother

end Shape

end ShaderPreview
