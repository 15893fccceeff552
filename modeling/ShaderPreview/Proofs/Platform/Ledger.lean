import Mathlib.Data.List.Nodup
import Mathlib.Logic.Function.Basic
import ShaderPreview.Platform.Interface
import ShaderPreview.Proofs.Dialogue.Contract

/-!
# The Ledger of a Context

Which objects a context has made and which were given back to it is read off the exchanges that
have passed. An object is **obtained** when a call that makes one is answered, and it is
**released** when it is passed to a release, also to one that is refused.

Whoever works on a context keeps its objects in **places** of some kind. The ledger **tallies** with
the places when nothing was obtained or released twice, and the objects that are not released are
those in the places, each in one of them, and those that were **lost**. An object is lost when
another one takes its place before it is released.

## Main definitions

* `Platform.obtained`, `Platform.released`: the objects in the ledger.
* `Platform.Tally`: the ledger tallies with some places.
* `Platform.Fresh`: an exchange that makes an object makes a new one.

## Main results

* `Platform.Tally.keep`, `Platform.Tally.obtain`, `Platform.Tally.release`: how an exchange moves
  the tally.
* `Platform.fresh_of_nodup`: on a path that obtains no object twice, each object is new.
-/

namespace ShaderPreview.Platform

/-! ### Reading an exchange -/

/-- The object that an exchange **obtains**. -/
def obtained? : Exchange Platform → Option GpuObject
  | ⟨.linkProgram .., .ok linked⟩ => some (.program linked.number)
  | ⟨.createBuffer _, .ok number⟩ => some (.buffer number)
  | ⟨.createVertexArray .., .ok number⟩ => some (.vertexArray number)
  | _ => none

/-- The object that a call **releases**. -/
def Call.released? : Platform.Call → Option GpuObject
  | .release object => some object
  | _ => none

/-- A refused call obtains nothing. -/
theorem obtained?_error (call : Platform.Call) (fault : Fault) :
    obtained? ⟨call, .error fault⟩ = none := by
  cases call <;> rfl

/-- An exchange that releases does not obtain. -/
theorem obtained?_of_released? {x : Exchange Platform} {o : GpuObject}
    (h : x.call.released? = some o) : obtained? x = none := by
  obtain ⟨call, reply⟩ := x
  cases call <;> first | rfl | exact absurd h nofun

/-- An exchange that obtains does not release. -/
theorem released?_of_obtained? {x : Exchange Platform} {o : GpuObject} (h : obtained? x = some o) :
    x.call.released? = none := by
  cases hx : x.call.released? with
  | none => rfl
  | some o' =>
    rw [obtained?_of_released? hx] at h
    cases h

/-! ### The objects -/

/-- The objects that were **obtained**, in order. -/
def obtained (past : List (Exchange Platform)) : List GpuObject := past.filterMap obtained?

/-- The objects that were **released**, in order. -/
def released (past : List (Exchange Platform)) : List GpuObject :=
  past.filterMap (·.call.released?)

variable {past : List (Exchange Platform)} {x : Exchange Platform} {o : GpuObject}

/-- One more exchange adds what it gave, if it gave anything. -/
theorem obtained_append_singleton :
    obtained (past ++ [x]) = obtained past ++ (obtained? x).toList :=
  Exchange.filterMap_append_singleton

/-- One more exchange adds what its call releases, if it releases anything. -/
theorem released_append_singleton :
    released (past ++ [x]) = released past ++ x.call.released?.toList :=
  Exchange.filterMap_append_singleton

/-- What was released stays so. -/
theorem mem_released_append (h : o ∈ released past) : o ∈ released (past ++ [x]) := by
  rw [released_append_singleton]
  exact List.mem_append_left _ h

/-- The context is **untouched**: nothing was obtained or released. -/
structure Untouched (past : List (Exchange Platform)) : Prop where
  obtained_eq : obtained past = []
  released_eq : released past = []

/-- At first the context is untouched. -/
theorem untouched_nil : Untouched [] := ⟨rfl, rfl⟩

/-- An exchange that neither gives nor releases anything leaves it so. -/
theorem Untouched.append (h : Untouched past) (hx : obtained? x = none)
    (hx' : x.call.released? = none) : Untouched (past ++ [x]) := by
  refine ⟨?_, ?_⟩
  · rw [obtained_append_singleton, h.obtained_eq, hx]
    rfl
  · rw [released_append_singleton, h.released_eq, hx']
    rfl

/-! ### The tally -/

section Tally

variable {P : Type} {lost : List GpuObject} {held : P → Option GpuObject}

/-- The ledger **tallies** with what is held in some places and with what was lost. -/
structure Tally (lost : List GpuObject) (past : List (Exchange Platform))
    (held : P → Option GpuObject) : Prop where
  obtained_nodup : (obtained past).Nodup
  released_nodup : (released past).Nodup
  released_subset : released past ⊆ obtained past
  unreleased_iff : ∀ o, o ∈ obtained past ∧ o ∉ released past ↔
    (∃ place, held place = some o) ∨ o ∈ lost
  place_unique : ∀ {place place' o}, held place = some o → held place' = some o → place = place'
  notMem_lost : ∀ {place o}, held place = some o → o ∉ lost

/-- As long as the context is untouched there is nothing. -/
theorem Untouched.tally (h : Untouched past) : Tally [] past fun _ : P => none := by
  refine ⟨?_, ?_, ?_, fun o => ?_, nofun, nofun⟩
  · rw [h.obtained_eq]
    exact List.nodup_nil
  · rw [h.released_eq]
    exact List.nodup_nil
  · rw [h.obtained_eq, h.released_eq]
    exact List.Subset.refl _
  · simp [h.obtained_eq]

namespace Tally

/-- What is held in a place is not released. -/
theorem notMem_released (h : Tally lost past held) {place : P} (hplace : held place = some o) :
    o ∉ released past :=
  ((h.unreleased_iff o).mpr (.inl ⟨place, hplace⟩)).2

/-- Where no place holds anything and nothing was lost, everything is released. -/
theorem subset_released (h : Tally [] past held) (hempty : ∀ place, held place = none) :
    obtained past ⊆ released past := by
  intro o ho
  by_contra hnot
  rcases (h.unreleased_iff o).mp ⟨ho, hnot⟩ with ⟨place, hplace⟩ | hlost
  · rw [hempty place] at hplace
    cases hplace
  · exact absurd hlost List.not_mem_nil

/-- An exchange that obtains nothing and releases nothing **leaves the tally as it is**. -/
theorem keep (h : Tally lost past held) (hx : obtained? x = none) (hx' : x.call.released? = none) :
    Tally lost (past ++ [x]) held := by
  have hobtained : obtained (past ++ [x]) = obtained past := by
    rw [obtained_append_singleton, hx, Option.toList_none, List.append_nil]
  have hreleased : released (past ++ [x]) = released past := by
    rw [released_append_singleton, hx', Option.toList_none, List.append_nil]
  refine ⟨?_, ?_, ?_, ?_, h.place_unique, h.notMem_lost⟩
  · rw [hobtained]
    exact h.obtained_nodup
  · rw [hreleased]
    exact h.released_nodup
  · rw [hobtained, hreleased]
    exact h.released_subset
  · rw [hobtained, hreleased]
    exact h.unreleased_iff

variable [DecidableEq P]

/-- What is held after a change is held in the place that changed or in another one. -/
theorem exists_update_iff {place : P} {a : Option GpuObject} :
    (∃ place', Function.update held place a place' = some o) ↔
      a = some o ∨ ∃ place', place' ≠ place ∧ held place' = some o := by
  constructor
  · rintro ⟨place', h⟩
    by_cases hplace : place' = place
    · subst hplace
      rw [Function.update_self] at h
      exact .inl h
    · rw [Function.update_of_ne hplace] at h
      exact .inr ⟨place', hplace, h⟩
  · rintro (h | ⟨place', hplace, h⟩)
    · exact ⟨place, by rw [Function.update_self, h]⟩
    · exact ⟨place', by rw [Function.update_of_ne hplace, h]⟩

/-- A new object is **put in a place**. What was there is lost. -/
theorem obtain (h : Tally lost past held) (hx : obtained? x = some o) (hnew : o ∉ obtained past)
    (place : P) :
    Tally (lost ++ (held place).toList) (past ++ [x])
      (Function.update held place (some o)) := by
  have hobtained : obtained (past ++ [x]) = obtained past ++ [o] := by
    rw [obtained_append_singleton, hx, Option.toList_some]
  have hreleased : released (past ++ [x]) = released past := by
    rw [released_append_singleton, released?_of_obtained? hx, Option.toList_none, List.append_nil]
  have hnot : o ∉ released past := fun ho => hnew (h.released_subset ho)
  have hheld : ∀ place', held place' ≠ some o := fun place' hplace =>
    hnew ((h.unreleased_iff o).mpr (.inl ⟨place', hplace⟩)).1
  have hlost : o ∉ lost := fun ho => hnew ((h.unreleased_iff o).mpr (.inr ho)).1
  refine ⟨?_, ?_, ?_, fun o' => ?_, ?_, ?_⟩
  · rw [hobtained, ← List.concat_eq_append]
    exact h.obtained_nodup.concat hnew
  · rw [hreleased]
    exact h.released_nodup
  · rw [hobtained, hreleased]
    exact fun o' ho => List.mem_append_left _ (h.released_subset ho)
  · rw [hobtained, hreleased, exists_update_iff]
    have hiff := h.unreleased_iff o'
    grind
  · intro place₁ place₂ o' h₁ h₂
    have hunique := @h.place_unique
    grind [Function.update_apply]
  · intro place' o' hplace'
    have hunique := @h.place_unique
    have happart := @h.notMem_lost
    grind [Function.update_apply]

/-- An object is **released from its place**. -/
theorem release (h : Tally lost past held) (hx : x.call.released? = some o) {place : P}
    (hplace : held place = some o) :
    Tally lost (past ++ [x]) (Function.update held place none) := by
  have hobtained : obtained (past ++ [x]) = obtained past := by
    rw [obtained_append_singleton, obtained?_of_released? hx, Option.toList_none, List.append_nil]
  have hreleased : released (past ++ [x]) = released past ++ [o] := by
    rw [released_append_singleton, hx, Option.toList_some]
  obtain ⟨hmem, hnot⟩ := (h.unreleased_iff o).mpr (.inl ⟨place, hplace⟩)
  refine ⟨?_, ?_, ?_, fun o' => ?_, ?_, ?_⟩
  · rw [hobtained]
    exact h.obtained_nodup
  · rw [hreleased, ← List.concat_eq_append]
    exact h.released_nodup.concat hnot
  · rw [hobtained, hreleased]
    intro o' ho
    rcases List.mem_append.mp ho with ho | ho
    · exact h.released_subset ho
    · exact List.mem_singleton.mp ho ▸ hmem
  · rw [hobtained, hreleased, exists_update_iff]
    have hiff := h.unreleased_iff o'
    have hunique := @h.place_unique
    have happart := @h.notMem_lost
    grind
  · intro place₁ place₂ o' h₁ h₂
    have hunique := @h.place_unique
    grind [Function.update_apply]
  · intro place' o' hplace'
    have happart := @h.notMem_lost
    grind [Function.update_apply]

end Tally

end Tally

/-! ### New objects -/

/-- An object that is obtained is **new**. -/
def Fresh (past : List (Exchange Platform)) (x : Exchange Platform) : Prop :=
  ∀ o, obtained? x = some o → o ∉ obtained past

/-- On a path on which **no object is obtained twice**, each object that is obtained is new. -/
theorem fresh_of_nodup {σ : Type} {moments before after : List (Moment Platform σ)}
    {m : Moment Platform σ} (h : (obtained (past ++ moments.map Moment.exchange)).Nodup)
    (he : moments = before ++ m :: after) :
    Fresh (past ++ before.map Moment.exchange) m.exchange :=
  fun _ hm => Moment.notMem_filterMap_of_nodup h he hm

end ShaderPreview.Platform
