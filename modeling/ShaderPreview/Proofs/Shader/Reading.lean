import Mathlib.Data.List.Infix
import ShaderPreview.Proofs.Text.Marking
import ShaderPreview.Shader.Bundle

/-!
# The Grammar of Bundles

A bundle is put together from three texts: a preamble, the vertex part and the fragment part, with
the vertex marker and the fragment marker between them. Such a **reading** of a text has to be the
one that is found by going from left to right: the preamble holds neither marker, and the vertex
part does not hold the fragment marker. What else the three hold is free, be it slashes, pieces of
markers or more vertex markers.

A text has at most one reading, and taking a bundle apart finds it. Where there is none a marker is
missing, or the markers are in the wrong order.

## Main definitions

* `Bundle.Reading`: three texts that a bundle can be read as.
* `Bundle.missing`, `Bundle.IsReversed`: what keeps a text from having one.

## Main results

* `Bundle.Reading.eq_of_text_eq`: a text has at most one reading.
* `Bundle.Reading.split_text`: a bundle comes apart as it was put together.
* `Bundle.split_iff_reading`: a bundle can be taken apart exactly when it has a reading, which is
  then unique.
-/

namespace ShaderPreview.Bundle

open Text

/-! ### The two markers -/

/-- The vertex marker is a marker. -/
theorem isMarker_vertexMarker : IsMarker vertexMarker.toList :=
  ⟨" Vertex Shader".toList, by decide, by decide, by decide⟩

/-- The fragment marker is one, too. -/
theorem isMarker_fragmentMarker : IsMarker fragmentMarker.toList :=
  ⟨" Fragment Shader".toList, by decide, by decide, by decide⟩

/-- The two markers do not begin at the same place. -/
theorem not_startsAt_vertexMarker {s : List Char} {i : Nat}
    (hf : StartsAt fragmentMarker.toList s i) : ¬ StartsAt vertexMarker.toList s i := by
  intro hv
  have hshort : vertexMarker.toList.length ≤ fragmentMarker.toList.length := by decide
  exact absurd (List.prefix_of_prefix_length_le hv hf hshort) (by decide)

/-- The fragment marker is on one side of a vertex marker. -/
theorem isInfix_append_vertexMarker {s t : List Char} :
    fragmentMarker.toList <:+: s ++ vertexMarker.toList ++ t ↔
      fragmentMarker.toList <:+: s ∨ fragmentMarker.toList <:+: t :=
  isMarker_fragmentMarker.isInfix_append_iff isMarker_vertexMarker fun _ _ =>
    not_startsAt_vertexMarker

/-- A bundle is cut at a marker that is not in what comes before. -/
theorem cut?_marker_iff {marker s t u : List Char} (hm : IsMarker marker) :
    cut? marker s = some (t, u) ↔ s = t ++ marker ++ u ∧ ¬ marker <:+: t := by
  rw [cut?_eq_some_iff]
  refine and_congr_right ?_
  rintro rfl
  exact hm.firstAt_iff

/-! ### Readings -/

/-- Three texts that a **bundle can be read as**. -/
structure Reading where
  preamble : String
  vertex : String
  fragment : String
  vertexMarker_preamble : ¬ vertexMarker.toList <:+: preamble.toList
  fragmentMarker_preamble : ¬ fragmentMarker.toList <:+: preamble.toList
  fragmentMarker_vertex : ¬ fragmentMarker.toList <:+: vertex.toList

namespace Reading

variable (r : Reading)

/-- The **bundle** that is put together from a reading. -/
def text : String := r.preamble ++ vertexMarker ++ r.vertex ++ fragmentMarker ++ r.fragment

/-- The **parts** that a reading gives. -/
def sections : Sections where
  shapeName := shapeName r.text
  vertex := String.ofList (trim r.vertex.toList)
  fragment := String.ofList (trim r.fragment.toList)

/-- What comes before the fragment marker of a reading. -/
def head : List Char := r.preamble.toList ++ vertexMarker.toList ++ r.vertex.toList

/-- The text of a reading, with all before the fragment marker as its head. -/
theorem toList_text : r.text.toList = r.head ++ fragmentMarker.toList ++ r.fragment.toList := by
  simp only [text, head, String.toList_append]

/-- The vertex marker of a reading is the first one of its text. -/
theorem cut?_vertexMarker : cut? vertexMarker.toList r.text.toList =
    some (r.preamble.toList, r.vertex.toList ++ fragmentMarker.toList ++ r.fragment.toList) := by
  refine (cut?_marker_iff isMarker_vertexMarker).mpr ⟨?_, r.vertexMarker_preamble⟩
  simp only [toList_text, head, List.append_assoc]

/-- The fragment marker of a reading is the first one of its text. -/
theorem cut?_fragmentMarker :
    cut? fragmentMarker.toList r.text.toList = some (r.head, r.fragment.toList) := by
  refine (cut?_marker_iff isMarker_fragmentMarker).mpr ⟨r.toList_text, ?_⟩
  rw [head, isInfix_append_vertexMarker]
  rintro (h | h)
  · exact r.fragmentMarker_preamble h
  · exact r.fragmentMarker_vertex h

/-- A text has **at most one reading**. -/
theorem eq_of_text_eq {r r' : Reading} (h : r.text = r'.text) : r = r' := by
  have hvertex := r.cut?_vertexMarker
  rw [h, r'.cut?_vertexMarker, Option.some.injEq, Prod.mk.injEq] at hvertex
  have hfragment := r.cut?_fragmentMarker
  rw [h, r'.cut?_fragmentMarker, Option.some.injEq, Prod.mk.injEq, head, head] at hfragment
  obtain ⟨preamble, vertex, fragment, _, _, _⟩ := r
  obtain ⟨preamble', vertex', fragment', _, _, _⟩ := r'
  obtain rfl : preamble' = preamble := String.toList_inj.mp hvertex.1
  obtain rfl : vertex' = vertex := String.toList_inj.mp (List.append_cancel_left hfragment.1)
  obtain rfl : fragment' = fragment := String.toList_inj.mp hfragment.2
  rfl

/-- A bundle that is put together from a reading **comes apart** as it was read. -/
theorem split_text : split r.text = .ok r.sections := by
  have horder : ¬ r.head.length < r.preamble.toList.length := by
    simp only [head, List.length_append]
    omega
  have hdrop : r.head.drop (r.preamble.toList.length + vertexMarker.toList.length) =
      r.vertex.toList := by
    rw [head, ← List.length_append, List.drop_left]
  simp only [split, cut?_vertexMarker, cut?_fragmentMarker, if_neg horder, hdrop]
  rfl

end Reading

/-- Markers in their order give a reading. -/
theorem exists_reading {bundle : String} {preamble later head fragment : List Char}
    (hvertex : cut? vertexMarker.toList bundle.toList = some (preamble, later))
    (hfragment : cut? fragmentMarker.toList bundle.toList = some (head, fragment))
    (horder : ¬ head.length < preamble.length) : ∃ r : Reading, r.text = bundle := by
  obtain ⟨hv, hvfirst⟩ := cut?_eq_some_iff.mp hvertex
  obtain ⟨hf, hffirst⟩ := cut?_eq_some_iff.mp hfragment
  have hne : preamble.length ≠ head.length := fun he =>
    not_startsAt_vertexMarker hffirst.1 (he ▸ hvfirst.1)
  have hapart := isMarker_vertexMarker.apart isMarker_fragmentMarker hvfirst.1 hffirst.1 (by omega)
  have hopening : preamble ++ vertexMarker.toList <+: bundle.toList := ⟨later, hv.symm⟩
  have hhead : head <+: bundle.toList := ⟨_, (List.append_assoc .. ▸ hf).symm⟩
  obtain ⟨vertex, rfl⟩ : preamble ++ vertexMarker.toList <+: head :=
    List.prefix_of_prefix_length_le hopening hhead (by rwa [List.length_append])
  have hpreamble : ¬ vertexMarker.toList <:+: preamble :=
    ((cut?_marker_iff isMarker_vertexMarker).mp hvertex).2
  have hparts : ¬ fragmentMarker.toList <:+: preamble ++ vertexMarker.toList ++ vertex :=
    ((cut?_marker_iff isMarker_fragmentMarker).mp hfragment).2
  rw [isInfix_append_vertexMarker, not_or] at hparts
  refine ⟨⟨.ofList preamble, .ofList vertex, .ofList fragment, ?_, ?_, ?_⟩, ?_⟩
  · rwa [String.toList_ofList]
  · rw [String.toList_ofList]
    exact hparts.1
  · rw [String.toList_ofList]
    exact hparts.2
  · refine String.toList_inj.mp ?_
    rw [Reading.toList_text, Reading.head, hf]
    simp only [String.toList_ofList]

/-! ### Taking a bundle apart -/

/-- The markers that a text **does without**, in the order in which they should come. -/
def missing (bundle : String) : List String :=
  [vertexMarker, fragmentMarker].filter fun marker => ¬ marker.toList <:+: bundle.toList

/-- The markers are in the **wrong order**: both occur, and the fragment marker is the first to do
so. -/
def IsReversed (bundle : String) : Prop :=
  ∃ i j, FirstAt fragmentMarker.toList bundle.toList i ∧
    FirstAt vertexMarker.toList bundle.toList j ∧ i < j

/-- No marker is missing exactly if both occur. -/
theorem missing_eq_nil_iff {bundle : String} : missing bundle = [] ↔
    vertexMarker.toList <:+: bundle.toList ∧ fragmentMarker.toList <:+: bundle.toList := by
  simp [missing]

/-- Where a marker is missing, taking apart says which. -/
theorem split_of_missing {bundle : String} (h : missing bundle ≠ []) :
    split bundle = .error (.missingMarkers (missing bundle) bundle) := by
  cases hvertex : cut? vertexMarker.toList bundle.toList with
  | none =>
    have hv := cut?_eq_none_iff.mp hvertex
    cases hfragment : cut? fragmentMarker.toList bundle.toList with
    | none => simp [split, missing, hvertex, hfragment, hv, cut?_eq_none_iff.mp hfragment]
    | some cut => simp [split, missing, hvertex, hfragment, hv, isInfix_of_cut? hfragment]
  | some cut =>
    have hv := isInfix_of_cut? hvertex
    cases hfragment : cut? fragmentMarker.toList bundle.toList with
    | none => simp [split, missing, hvertex, hfragment, hv, cut?_eq_none_iff.mp hfragment]
    | some cut => exact absurd (missing_eq_nil_iff.mpr ⟨hv, isInfix_of_cut? hfragment⟩) h

/-- Where the markers are in the wrong order, taking apart says so. -/
theorem split_of_isReversed {bundle : String} (h : IsReversed bundle) :
    split bundle = .error (.markerOrder bundle) := by
  obtain ⟨i, j, hf, hv, hlt⟩ := h
  obtain ⟨⟨preamble, later⟩, hvertex⟩ := exists_cut? hv.1.isInfix
  obtain ⟨⟨head, fragment⟩, hfragment⟩ := exists_cut? hf.1.isInfix
  have horder : head.length < preamble.length := by
    rwa [(firstAt_of_cut? hfragment).unique hf, (firstAt_of_cut? hvertex).unique hv]
  simp only [split, hvertex, hfragment, if_pos horder]

/-- What becomes of a bundle depends on where its first markers are. -/
theorem reading_or_missing_or_isReversed (bundle : String) :
    (∃ r : Reading, r.text = bundle) ∨ missing bundle ≠ [] ∨ IsReversed bundle := by
  by_cases hmissing : missing bundle = []
  · obtain ⟨hv, hf⟩ := missing_eq_nil_iff.mp hmissing
    obtain ⟨⟨preamble, later⟩, hvertex⟩ := exists_cut? hv
    obtain ⟨⟨head, fragment⟩, hfragment⟩ := exists_cut? hf
    by_cases horder : head.length < preamble.length
    · exact .inr (.inr ⟨_, _, firstAt_of_cut? hfragment, firstAt_of_cut? hvertex, horder⟩)
    · exact .inl (exists_reading hvertex hfragment horder)
  · exact .inr (.inl hmissing)

/-- A bundle **comes apart exactly when it has a reading**, which is the only one; the parts are
then those of the reading. Otherwise the markers that are missing are named, or, where none is
missing, the first fragment marker comes before the first vertex marker and that is said. Either
fault holds the whole text. -/
theorem split_iff_reading (bundle : String) :
    (∀ sections, split bundle = .ok sections ↔
        ∃ r : Reading, r.text = bundle ∧ r.sections = sections) ∧
      (∀ r r' : Reading, r.text = bundle → r'.text = bundle → r = r') ∧
      ∀ fault, split bundle = .error fault ↔
        missing bundle ≠ [] ∧ fault = .missingMarkers (missing bundle) bundle ∨
          IsReversed bundle ∧ fault = .markerOrder bundle := by
  refine ⟨fun sections => ⟨fun h => ?_, ?_⟩,
    fun r r' hr hr' => Reading.eq_of_text_eq (hr.trans hr'.symm), fun fault => ⟨fun h => ?_, ?_⟩⟩
  · rcases reading_or_missing_or_isReversed bundle with ⟨r, rfl⟩ | hmissing | hreversed
    · rw [r.split_text] at h
      exact ⟨r, rfl, Except.ok.inj h⟩
    · rw [split_of_missing hmissing] at h
      cases h
    · rw [split_of_isReversed hreversed] at h
      cases h
  · rintro ⟨r, rfl, rfl⟩
    exact r.split_text
  · rcases reading_or_missing_or_isReversed bundle with ⟨r, rfl⟩ | hmissing | hreversed
    · rw [r.split_text] at h
      cases h
    · rw [split_of_missing hmissing] at h
      exact .inl ⟨hmissing, (Except.error.inj h).symm⟩
    · rw [split_of_isReversed hreversed] at h
      exact .inr ⟨hreversed, (Except.error.inj h).symm⟩
  · rintro (⟨hmissing, rfl⟩ | ⟨hreversed, rfl⟩)
    · exact split_of_missing hmissing
    · exact split_of_isReversed hreversed

end ShaderPreview.Bundle
