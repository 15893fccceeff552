import ShaderPreview.Frame.Scheduler
import ShaderPreview.Proofs.Pipeline.Verdicts

/-!
# The Arithmetic of a Frame

Before a frame is drawn its matrices and its resolution are computed from the view and the time. A
measure of the view may be unknown or too large, and a time may be infinite. So the computation can
fail, in one of five ways, and this has nothing to do with the device.

## Main definitions

* `Fault.IsArithmetic`: the faults of a computation.
* `Scheduler.reckon`: the arithmetic of a frame.

## Main results

* `Scheduler.computed_reckon`: it fails only as computations do.
* `Scheduler.exists_reckon`: it does not fail where the measures fit a double and the time is
  finite.
-/

namespace ShaderPreview

/-- A fault of a **computation** with a view or a time. -/
def Fault.IsArithmetic : Fault → Prop
  | .outsideDomain => True
  | .quotientTooLarge => True
  | .numberTooLarge => True
  | .unknownWidth => True
  | .unknownMeasure => True
  | _ => False

/-- A value that is **computed**: where there is none, it is the computation's fault. -/
def Fault.Computed {α : Type} (r : Except Fault α) : Prop :=
  ∀ fault, r = .error fault → fault.IsArithmetic

namespace Fault

variable {α β : Type}

/-- A computation has no verdicts. -/
theorem IsArithmetic.not_isVerdict {fault : Fault} (h : fault.IsArithmetic) :
    ¬fault.IsVerdict := by
  cases fault with
  | pipeline fault => exact h.elim
  | _ => exact id

/-- A value was computed. -/
theorem computed_ok (a : α) : Computed (.ok a : Except Fault α) := nofun

/-- A fault of the arithmetic may come of computing. -/
theorem computed_error {fault : Fault} (h : fault.IsArithmetic) :
    Computed (.error fault : Except Fault α) := by
  rintro _ ⟨⟩
  exact h

/-- What is computed from what was computed fails by arithmetic only. -/
theorem Computed.bind {r : Except Fault α} {f : α → Except Fault β} (hr : Computed r)
    (hf : ∀ a, Computed (f a)) : Computed (r >>= f) := by
  cases r with
  | ok a => exact hf a
  | error fault => exact computed_error (hr fault rfl)

end Fault

open Fault

/-- The aspect fails only where the quotient is too large or a measure is unknown. -/
theorem ViewSize.computed_aspect (size : ViewSize) (ratio : Int → Int → Option Float) :
    Computed (size.aspect ratio) := by
  obtain ⟨width, height⟩ := size
  dsimp only [ViewSize.aspect, ViewSize.quotient]
  split
  · exact computed_ok _
  · rcases width with _ | width
    · exact computed_error trivial
    · dsimp only
      split
      · exact computed_ok _
      · exact computed_error trivial

/-- A measure fails only where it is too large for a double or unknown. -/
theorem ViewSize.computed_toFloat (measure : Option Int) : Computed (ViewSize.toFloat measure) := by
  rcases measure with _ | n
  · exact computed_error trivial
  · dsimp only [ViewSize.toFloat]
    split
    · exact computed_ok _
    · exact computed_error trivial

/-- So do the two measures together. -/
theorem ViewSize.computed_resolution (size : ViewSize) : Computed size.resolution := by
  rw [ViewSize.resolution, ViewSize.toList, List.mapM_cons, List.mapM_cons, List.mapM_nil]
  exact (computed_toFloat _).bind fun _ =>
    ((computed_toFloat _).bind fun _ => computed_ok _).bind fun _ => computed_ok _

/-- A function of an angle fails only where the angle is infinite. -/
theorem Transform.computed_ofAngle (f : Float → Float) (angle : Float) :
    Computed (Transform.ofAngle f angle) := by
  rw [Transform.ofAngle]
  split
  · exact computed_error trivial
  · exact computed_ok _

/-- The matrices of a frame fail only by an angle. -/
theorem FrameMatrices.computed_after (camera : Camera) (elapsed aspect : Float) :
    Computed (FrameMatrices.after camera elapsed aspect) :=
  ((Transform.computed_ofAngle _ _).bind fun _ => (Transform.computed_ofAngle _ _).bind fun _ =>
    computed_ok _).bind fun _ => ((Transform.computed_ofAngle _ _).bind fun _ =>
    computed_ok _).bind fun _ => computed_ok _

/-- The **arithmetic of a frame**: the matrices and the resolution for a view and a time, or the
fault that it comes to. -/
def Scheduler.reckon (settings : RenderSettings) (view : ViewSize) (elapsed : Float) :
    Except Fault (FrameMatrices × List Float) := do
  let aspect ← view.aspect Ratio.toFloat?
  let matrices ← FrameMatrices.after settings.camera elapsed aspect
  let resolution ← view.resolution
  return (matrices, resolution)

/-- The arithmetic of a frame fails **only as computations do**. -/
theorem Scheduler.computed_reckon {settings : RenderSettings} {view : ViewSize} {elapsed : Float} :
    Computed (reckon settings view elapsed) :=
  (view.computed_aspect _).bind fun _ => (FrameMatrices.computed_after _ _ _).bind fun _ =>
    view.computed_resolution.bind fun _ => computed_ok _

/-! ### Where nothing fails -/

/-- A quotient that is not too large is a double. -/
theorem Ratio.exists_toFloat? {num den : Int} (h : num.natAbs < limit * den.natAbs) :
    ∃ x, toFloat? num den = some x := by
  refine Option.ne_none_iff_exists'.mp fun hnone => ?_
  exact Nat.not_le.mpr h ((toFloat?_eq_none_iff num den).mp hnone)

/-- A measure within the limit has a double. -/
theorem ViewSize.exists_toFloat {n : Int} (h : n.natAbs < Ratio.limit) :
    ∃ x, ViewSize.toFloat (some n) = .ok x := by
  have hone : n.natAbs < Ratio.limit * (1 : Int).natAbs := by
    rw [Int.natAbs_one, Nat.mul_one]
    exact h
  obtain ⟨x, hx⟩ := Ratio.exists_toFloat? hone
  refine ⟨x, ?_⟩
  dsimp only [ViewSize.toFloat]
  rw [hx]

/-- A width within the limit has an aspect, whatever the height. -/
theorem ViewSize.exists_aspect {width : Int} (height : Int) (h : width.natAbs < Ratio.limit) :
    ∃ x, (pixels width height).aspect Ratio.toFloat? = .ok x := by
  rw [aspect_pixels]
  by_cases hheight : height = 0
  · exact ⟨1, if_pos hheight⟩
  · have hpos : 0 < height.natAbs := Int.natAbs_pos.mpr hheight
    obtain ⟨x, hx⟩ := Ratio.exists_toFloat?
      (Nat.lt_of_lt_of_le h (Nat.le_mul_of_pos_right Ratio.limit hpos))
    exact ⟨x, by rw [if_neg hheight, quotient, hx]⟩

/-- There are matrices at any finite time. -/
theorem FrameMatrices.exists_after {elapsed aspect : Float} (h : elapsed.isInf = false) :
    ∃ matrices, FrameMatrices.after {} elapsed aspect = .ok matrices := by
  have hhalf : (Transform.halfRadians Mesh.pi ({} : Camera).degrees).isInf = false := by
    decide +kernel
  have hcosine : Transform.ofAngle Float.cos elapsed = .ok elapsed.cos := by
    rw [Transform.ofAngle, h]
    rfl
  have hsine : Transform.ofAngle Float.sin elapsed = .ok elapsed.sin := by
    rw [Transform.ofAngle, h]
    rfl
  rw [FrameMatrices.after, Transform.rotationY, hcosine, hsine, Transform.perspective,
    Transform.ofAngle, hhalf]
  exact ⟨_, rfl⟩

/-- With the usual settings the arithmetic of a frame **does not fail** where both measures fit a
double and the time is finite. -/
theorem Scheduler.exists_reckon {width height : Int} {elapsed : Float}
    (hwidth : width.natAbs < Ratio.limit) (hheight : height.natAbs < Ratio.limit)
    (helapsed : elapsed.isInf = false) :
    ∃ results, reckon {} (.pixels width height) elapsed = .ok results := by
  obtain ⟨aspect, haspect⟩ := ViewSize.exists_aspect height hwidth
  obtain ⟨matrices, hmatrices⟩ := FrameMatrices.exists_after helapsed
  obtain ⟨x, hx⟩ := ViewSize.exists_toFloat hwidth
  obtain ⟨y, hy⟩ := ViewSize.exists_toFloat hheight
  have hresolution : (ViewSize.pixels width height).resolution = .ok [x, y] := by
    rw [ViewSize.resolution, ViewSize.toList, List.mapM_cons, List.mapM_cons, List.mapM_nil]
    simp only [ViewSize.pixels, hx, hy]
    rfl
  rw [reckon, haspect, hresolution]
  refine ⟨(matrices, [x, y]), ?_⟩
  simp only [bind, Except.bind]
  rw [hmatrices]
  rfl

end ShaderPreview
