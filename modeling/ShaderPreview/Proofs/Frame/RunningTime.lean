import Mathlib.Data.Prod.Lex
import ShaderPreview.Frame.Clock

/-!
# The Latest of Some Times

A clock that is read many times may go backwards, and a reading may be no number at all. The time
that a shader sees is the latest so far, so all that counts is which of two times is later. That
order is the one of the numbers, except that the two zeros are equal and that what is not a number
is neither earlier nor later than anything.

The laws of the order are read off a **rank**: each number has one, and a number is below another
just if its rank is.

## Main definitions

* `FrameClock.rank`: the place of a number among all numbers.
* `FrameClock.IsLatest`: one of some times, than which none of them is later.

## Main results

* `FrameClock.not_lt_self`, `FrameClock.lt_trans`, `FrameClock.not_lt_of_isNaN`: the laws.
* `FrameClock.IsLatest.later`: the latest so far, when one more time comes in.
-/

namespace ShaderPreview.FrameClock

open Float.Model

/-! ### The order of times -/

/-- The **rank** of a number: by its kind and sign, then by its exponent, then by its mantissa.
What is not a number has none. -/
def rank : UnpackedFloat → Option (ℤ ×ₗ ℤ ×ₗ ℤ)
  | .notANumber => none
  | .infinity .negative => some (toLex (-2, toLex (0, 0)))
  | .finite .negative mantissa exponent _ => some (toLex (-1, toLex (-exponent, -mantissa)))
  | .zero _ => some (toLex (0, toLex (0, 0)))
  | .finite .positive mantissa exponent _ => some (toLex (1, toLex (exponent, mantissa)))
  | .infinity .positive => some (toLex (2, toLex (0, 0)))

/-- A number is below another just if its rank is. -/
theorem lt_iff_rank {a b : UnpackedFloat} :
    a.lt b = true ↔ ∃ k l, rank a = some k ∧ rank b = some l ∧ k < l := by
  have hlt : ∀ (e e' : ℤ) (m m' : ℕ),
      (compare e e').then (compare m m') = .lt ↔ e < e' ∨ e = e' ∧ m < m' := fun e e' m m' => by
    rw [Ordering.then_eq_lt, Int.compare_eq_lt, Int.compare_eq_eq, Nat.compare_eq_lt]
  have hgt : ∀ (e e' : ℤ) (m m' : ℕ),
      (compare e e').then (compare m m') = .gt ↔ e' < e ∨ e = e' ∧ m' < m := fun e e' m m' => by
    rw [Ordering.then_eq_gt, Int.compare_eq_gt, Int.compare_eq_eq, Nat.compare_eq_gt]
  have hsign : compare UnpackedFloat.Sign.negative .positive = .lt := rfl
  rcases a with (_ | _) | _ | _ | ⟨_ | _, m, e, hm⟩ <;>
    rcases b with (_ | _) | _ | _ | ⟨_ | _, m', e', hm'⟩ <;>
    dsimp only [rank, UnpackedFloat.lt, UnpackedFloat.compare] <;>
    simp [Prod.Lex.toLex_lt_toLex, hlt, hgt, hsign]

/-- The rank of a time. -/
def rankOf (a : Float) : Option (ℤ ×ₗ ℤ ×ₗ ℤ) := rank a.toModel.unpack

/-- A time is before another just if its rank is below. -/
theorem lt_iff {a b : Float} : a < b ↔ ∃ k l, rankOf a = some k ∧ rankOf b = some l ∧ k < l := by
  have hmodel : a < b ↔ a.toModel.unpack.lt b.toModel.unpack = true := decide_eq_true_iff
  exact hmodel.trans lt_iff_rank

variable {a b c : Float}

/-- No time is before **itself**. -/
theorem not_lt_self (a : Float) : ¬a < a := by
  rw [lt_iff]
  rintro ⟨k, l, hk, hl, hkl⟩
  rw [hk] at hl
  obtain rfl := Option.some.inj hl
  exact lt_irrefl k hkl

/-- What is before an **earlier** time is before a later one. -/
theorem lt_trans (hab : a < b) (hbc : b < c) : a < c := by
  obtain ⟨k, l, hk, hl, hkl⟩ := lt_iff.mp hab
  obtain ⟨l', m, hl', hm, hlm⟩ := lt_iff.mp hbc
  rw [hl] at hl'
  obtain rfl := Option.some.inj hl'
  exact lt_iff.mpr ⟨k, m, hk, hm, hkl.trans hlm⟩

/-- What is not a number has no rank. -/
theorem rankOf_of_isNaN (h : a.isNaN = true) : rankOf a = none := by
  have hunpack : a.toModel.unpack.isNaN = true := h
  rw [rankOf]
  generalize a.toModel.unpack = u at hunpack
  cases u with
  | notANumber => rfl
  | infinity sign => cases hunpack
  | zero sign => cases hunpack
  | finite sign mantissa exponent hpos => cases hunpack

/-- What is not a number is **neither before nor after** anything. -/
theorem not_lt_of_isNaN (h : a.isNaN = true) (b : Float) : ¬a < b ∧ ¬b < a := by
  rw [lt_iff, lt_iff, rankOf_of_isNaN h]
  constructor
  · rintro ⟨k, l, hk, -, -⟩
    cases hk
  · rintro ⟨k, l, -, hl, -⟩
    cases hl

/-! ### The latest so far -/

/-- **One of some times**, than which none of them is later. -/
structure IsLatest (a : Float) (times : List Float) : Prop where
  mem : a ∈ times
  not_lt : ∀ b ∈ times, ¬a < b

/-- A time by itself is the latest. -/
theorem isLatest_singleton (a : Float) : IsLatest a [a] :=
  ⟨List.mem_singleton_self a, fun _ hb => List.mem_singleton.mp hb ▸ not_lt_self a⟩

/-- The latest of more times is not before the latest of some of them. -/
theorem IsLatest.not_lt_of_subset {times times' : List Float} (h : IsLatest a times)
    (h' : IsLatest b times') (hsubset : times ⊆ times') : ¬b < a :=
  h'.not_lt a (hsubset h.mem)

/-- The **later of the latest and one more time** is the latest of them all. What is not a number
does not count. -/
theorem IsLatest.later {times : List Float} (h : IsLatest a times) (b : Float) :
    IsLatest (later a b) (times ++ [b].filter fun t => !t.isNaN) := by
  rw [FrameClock.later]
  by_cases hlt : a < b
  · have hnumber : b.isNaN = false := by
      by_contra hnan
      exact (not_lt_of_isNaN (Bool.eq_true_of_not_eq_false hnan) a).2 hlt
    rw [if_pos hlt, List.filter_cons_of_pos (by rw [hnumber]; rfl), List.filter_nil]
    refine ⟨List.mem_append_right _ (List.mem_singleton_self b), fun t ht hbt => ?_⟩
    rcases List.mem_append.mp ht with ht | ht
    · exact h.not_lt t ht (lt_trans hlt hbt)
    · exact not_lt_self b (List.mem_singleton.mp ht ▸ hbt)
  · rw [if_neg hlt]
    refine ⟨List.mem_append_left _ h.mem, fun t ht => ?_⟩
    rcases List.mem_append.mp ht with ht | ht
    · exact h.not_lt t ht
    · obtain rfl := List.mem_singleton.mp (List.mem_filter.mp ht).1
      exact hlt

end ShaderPreview.FrameClock
