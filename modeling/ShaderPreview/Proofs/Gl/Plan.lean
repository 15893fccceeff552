import ShaderPreview.Proofs.Gl.Storage

/-!
# What a Draw Is Made From

A context renders a vertex array, and a device makes one only when there is none. What it would make
the array from is the **plan** of the program: the program that is linked now, and for each binding
the object that is behind the buffer now.

Four kinds of calls may change the plan of a program and leave its vertex array: linking the program
again, an upload into a buffer that is bound, the deletion of such a buffer, and asking for the
location of an input. A binding takes the array away, unless the context refuses to release it.

## Main definitions

* `GlDevice.VertexPlan`, `GlDevice.plan`: what a vertex array would be made from.
* `GlDevice.DrawPath`: the ways of a draw.
* `GlDevice.Disturbing`: what may change a plan and leaves the array.

## Main results

* `GlDevice.path_drawTriangles`: how a draw goes.
* `GlDevice.plan_congr`: what a plan depends on.
* `GlDevice.Moves.plan_or_disturbing`: what a call makes of the plan behind a vertex array.
-/

namespace ShaderPreview.GlDevice

open Procedure Contract Platform

/-! ### Plans -/

/-- What a vertex array is **made from**: a linked program and the inputs. -/
structure VertexPlan where
  program : Nat
  inputs : List VertexInput
  deriving DecidableEq, Repr

/-- The call that asks for a vertex array. -/
abbrev VertexPlan.request (plan : VertexPlan) : Platform.Call :=
  .createVertexArray plan.program plan.inputs

/-- The objects that a vertex array is over. -/
def VertexPlan.objects (plan : VertexPlan) : List GpuObject :=
  .program plan.program :: plan.inputs.map fun input => .buffer input.buffer

/-- The inputs for some bindings, from the buffers and names **as they are**. -/
def inputsFor (d : GlDevice) (p : GlProgram) :
    List (Int × GlBinding) → Except Fault (List VertexInput)
  | [] => .ok []
  | (location, binding) :: rest =>
    match d.buffers.find? binding.buffer with
    | none => .error (.unknownEntry binding.buffer)
    | some none =>
      .error (.broken ("Buffer " ++ Numeral.ofInt binding.buffer ++ " bound before upload"))
    | some (some object) =>
      match p.inputs.find? location with
      | none => .error (.unknownEntry location)
      | some name => (d.inputsFor p rest).map (⟨object, binding.format, name⟩ :: ·)

/-- The **plan** of a program: what a vertex array would be made from now, or the fault that a draw
would end with before the context is asked for one. -/
def plan (d : GlDevice) (handle : Handle) : Except Fault VertexPlan :=
  match d.programs.find? handle with
  | none => .error (.unknownEntry handle)
  | some p =>
    match p.linkedProgram with
    | none => .error .notLinked
    | some linked =>
      match d.inputsFor p (sortedBindings p) with
      | .error fault => .error fault
      | .ok inputs =>
        if d.hasContext then .ok ⟨linked.number, inputs⟩
        else .error (.pipeline (.deviceUnavailable "Graphics context has been released"))

/-! ### A draw -/

variable {d d' : GlDevice} {handle : Handle} {vertices : Int} {p p' : GlProgram}

/-- The inputs of a vertex array are looked up, and nothing is asked for. The induction is on the
bindings. -/
theorem vertexInputs_apply (bindings : List (Int × GlBinding)) :
    vertexInputs p bindings d = .done (d.inputsFor p bindings) d := by
  induction bindings with
  | nil => rfl
  | cons entry rest ih =>
    obtain ⟨location, binding⟩ := entry
    cases hbuffer : d.buffers.find? binding.buffer with
    | none =>
      simp only [vertexInputs, buffer, require, bind_apply, state_apply, Dialogue.done_follow,
        hbuffer, fail_apply, inputsFor]
    | some object =>
      cases object with
      | none =>
        simp only [vertexInputs, buffer, require, bind_apply, state_apply, Dialogue.done_follow,
          hbuffer, pure_apply, fail_apply, inputsFor]
      | some object =>
        cases hname : p.inputs.find? location with
        | none =>
          simp only [vertexInputs, buffer, require, bind_apply, state_apply, Dialogue.done_follow,
            hbuffer, hname, pure_apply, fail_apply, inputsFor]
        | some name =>
          simp only [vertexInputs, buffer, require, bind_apply, state_apply, Dialogue.done_follow,
            hbuffer, hname, pure_apply, inputsFor, ih]
          cases d.inputsFor p rest with
          | error fault => rfl
          | ok inputs => rfl

/-- The **ways of a draw**: the array that is there is rendered; there is none, and the plan is at
fault or the context refuses to make one; or one is made, kept and rendered. -/
inductive DrawPath (d : GlDevice) (handle : Handle) (vertices : Int) :
    List (Moment Platform GlDevice) → Except Fault Unit → GlDevice → Prop
  | kept (p : GlProgram) (hp : d.programs.find? handle = some p) (number : Nat)
      (harray : p.vertexArray = some number) (reply : Except Fault Unit) :
      DrawPath d handle vertices [⟨d, .render number vertices, reply⟩] reply d
  | planless (fault : Fault) (hplan : d.plan handle = .error fault) :
      DrawPath d handle vertices [] (.error fault) d
  | unmade (plan : VertexPlan) (hplan : d.plan handle = .ok plan) (fault : Fault) :
      DrawPath d handle vertices [⟨d, plan.request, .error fault⟩] (.error fault) d
  | made (p : GlProgram) (hp : d.programs.find? handle = some p) (hnone : p.vertexArray = none)
      (plan : VertexPlan) (hplan : d.plan handle = .ok plan) (number : Nat) (d' : GlDevice)
      (hd' : d' = { d with
        programs := d.programs.put handle { p with vertexArray := some number } })
      (reply : Except Fault Unit) :
      DrawPath d handle vertices
        [⟨d, plan.request, .ok number⟩, ⟨d', .render number vertices, reply⟩] reply d'

/-- A vertex array that is there is taken. -/
theorem vertexArray_apply_some {number : Nat} (hp : d.programs.find? handle = some p)
    (harray : p.vertexArray = some number) : vertexArray handle d = .done (.ok number) d := by
  simp only [vertexArray, program, require, bind_apply, state_apply, Dialogue.done_follow, hp,
    pure_apply, harray]

/-- Where there is none, a plan at fault ends the call. -/
theorem vertexArray_apply_planless {fault : Fault}
    (hnone : ∀ p, d.programs.find? handle = some p → p.vertexArray = none)
    (hplan : d.plan handle = .error fault) : vertexArray handle d = .done (.error fault) d := by
  rw [vertexArray, program, require]
  cases hp : d.programs.find? handle with
  | none =>
    simp only [plan, hp] at hplan
    cases hplan
    simp only [bind_apply, state_apply, Dialogue.done_follow, hp, fail_apply]
  | some p =>
    have harray := hnone p hp
    cases hlinked : p.linkedProgram with
    | none =>
      simp only [plan, hp, hlinked] at hplan
      cases hplan
      simp only [bind_apply, state_apply, Dialogue.done_follow, hp, pure_apply, harray, hlinked,
        fail_apply]
    | some linked =>
      simp only [bind_apply, state_apply, Dialogue.done_follow, hp, pure_apply, harray, hlinked,
        vertexInputs_apply]
      cases hinputs : d.inputsFor p (sortedBindings p) with
      | error fault =>
        simp only [plan, hp, hlinked, hinputs] at hplan
        cases hplan
        rfl
      | ok inputs =>
        cases hcontext : d.hasContext with
        | true => simp only [plan, hp, hlinked, hinputs, hcontext, if_true, reduceCtorEq] at hplan
        | false =>
          simp only [plan, hp, hlinked, hinputs, hcontext] at hplan
          cases hplan
          simp only [requireContext, bind_apply, state_apply, Dialogue.done_follow, hcontext,
            Bool.not_false, if_true, fail_apply]

/-- A program with a plan is linked, its inputs are there, and so is the context. -/
theorem exists_of_plan {plan : VertexPlan} (h : d.plan handle = .ok plan) :
    ∃ p linked, d.programs.find? handle = some p ∧ p.linkedProgram = some linked ∧
      plan.program = linked.number ∧ d.inputsFor p (sortedBindings p) = .ok plan.inputs ∧
      d.hasContext = true := by
  cases hp : d.programs.find? handle with
  | none => simp only [GlDevice.plan, hp, reduceCtorEq] at h
  | some p =>
    cases hlinked : p.linkedProgram with
    | none => simp only [GlDevice.plan, hp, hlinked, reduceCtorEq] at h
    | some linked =>
      cases hinputs : d.inputsFor p (sortedBindings p) with
      | error fault => simp only [GlDevice.plan, hp, hlinked, hinputs, reduceCtorEq] at h
      | ok inputs =>
        cases hcontext : d.hasContext with
        | false =>
          simp only [GlDevice.plan, hp, hlinked, hinputs, hcontext, Bool.false_eq_true, if_false,
            reduceCtorEq] at h
        | true =>
          simp only [GlDevice.plan, hp, hlinked, hinputs, hcontext, if_true, Except.ok.injEq] at h
          subst h
          exact ⟨p, linked, rfl, hlinked, rfl, hinputs, rfl⟩

/-- Where there is none, one is made from the plan and kept. -/
theorem vertexArray_apply_plan {plan : VertexPlan} (hp : d.programs.find? handle = some p)
    (hnone : p.vertexArray = none) (hplan : d.plan handle = .ok plan) :
    vertexArray handle d = (do
      let number : Nat ← Platform.ask plan.request
      keepProgram handle { p with vertexArray := some number }
      return number : GlProcedure Nat) d := by
  obtain ⟨p', linked, hp', hlinked, hprogram, hinputs, hcontext⟩ := exists_of_plan hplan
  obtain rfl : p = p' := Option.some.inj (hp.symm.trans hp')
  -- What the context replies depends on the call, so the number is put into the plan first.
  obtain ⟨number, inputs⟩ := plan
  obtain rfl : number = linked.number := hprogram
  simp only [vertexArray, program, require, requireContext, bind_apply, state_apply,
    Dialogue.done_follow, hp, pure_apply, hnone, hlinked, vertexInputs_apply, hinputs, hcontext,
    Bool.not_true, Bool.false_eq_true, if_false, VertexPlan.request]

/-- **How a draw goes**. -/
theorem path_drawTriangles {moments : List (Moment Platform GlDevice)}
    {result : Except Fault Unit}
    (h : Dialogue.Path (drawTriangles handle vertices d) moments result d') :
    DrawPath d handle vertices moments result d' := by
  rw [drawTriangles, bind_apply] at h
  by_cases hthere : ∃ p number, d.programs.find? handle = some p ∧ p.vertexArray = some number
  · obtain ⟨p, number, hp, harray⟩ := hthere
    rw [vertexArray_apply_some hp harray] at h
    cases h with
    | ask reply h =>
      cases h
      exact .kept p hp number harray _
  · have hnone : ∀ p, d.programs.find? handle = some p → p.vertexArray = none := fun p hp =>
      Option.eq_none_iff_forall_ne_some.mpr fun number harray => hthere ⟨p, number, hp, harray⟩
    cases hplan : d.plan handle with
    | error fault =>
      rw [vertexArray_apply_planless hnone hplan] at h
      cases h
      exact .planless _ hplan
    | ok plan =>
      obtain ⟨p, -, hp, -⟩ := exists_of_plan hplan
      rw [vertexArray_apply_plan hp (hnone p hp) hplan] at h
      cases h with
      | ask reply h =>
        rcases reply with fault | number
        · cases h
          exact .unmade _ hplan fault
        · cases h with
          | ask reply h =>
            cases h
            exact .made p hp (hnone p hp) _ hplan number _ rfl _

/-! ### What a plan depends on -/

/-- A program **binds** a buffer. -/
def Binds (p : GlProgram) (buffer : Handle) : Prop :=
  ∃ e ∈ p.bindings.entries, e.2.buffer = buffer

/-- A program binds the buffers of its bindings, whatever their order. -/
theorem binds_of_mem_sortedBindings {e : Int × GlBinding} (h : e ∈ sortedBindings p) :
    Binds p e.2.buffer :=
  ⟨e, List.mem_mergeSort.mp h, rfl⟩

/-- Inputs depend on the buffers and names only. -/
theorem inputsFor_congr {bindings : List (Int × GlBinding)} (hinputs : p'.inputs = p.inputs)
    (hbuffers : ∀ e ∈ bindings, d'.buffers.find? e.2.buffer = d.buffers.find? e.2.buffer) :
    d'.inputsFor p' bindings = d.inputsFor p bindings := by
  induction bindings with
  | nil => rfl
  | cons e rest ih =>
    obtain ⟨location, binding⟩ := e
    obtain ⟨hfirst, hrest⟩ := List.forall_mem_cons.mp hbuffers
    simp only at hfirst
    simp only [inputsFor, hfirst, hinputs, ih hrest]

/-- A plan depends on the **program, the buffers that it binds, and the context**. -/
theorem plan_congr (hp : d.programs.find? handle = some p)
    (hp' : d'.programs.find? handle = some p') (hlinked : p'.linkedProgram = p.linkedProgram)
    (hinputs : p'.inputs = p.inputs) (hbindings : p'.bindings = p.bindings)
    (hbuffers : ∀ buffer, Binds p buffer → d'.buffers.find? buffer = d.buffers.find? buffer)
    (hcontext : d'.hasContext = d.hasContext) : d'.plan handle = d.plan handle := by
  have hsorted : sortedBindings p' = sortedBindings p := by
    rw [sortedBindings, hbindings, sortedBindings]
  have hsame : d'.inputsFor p' (sortedBindings p) = d.inputsFor p (sortedBindings p) :=
    inputsFor_congr hinputs fun e he => hbuffers _ (binds_of_mem_sortedBindings he)
  simp only [plan, hp, hp', hlinked, hsorted, hsame, hcontext]

/-- Behind each input there is a buffer with that object, and it is bound. -/
theorem exists_buffer_of_inputsFor {bindings : List (Int × GlBinding)} {inputs : List VertexInput}
    (h : d.inputsFor p bindings = .ok inputs) :
    (∀ e ∈ bindings, ∃ object, d.buffers.find? e.2.buffer = some (some object)) ∧
      ∀ input ∈ inputs, ∃ buffer, d.buffers.find? buffer = some (some input.buffer) := by
  induction bindings generalizing inputs with
  | nil =>
    cases h
    exact ⟨List.forall_mem_nil _, List.forall_mem_nil _⟩
  | cons e rest ih =>
    obtain ⟨location, binding⟩ := e
    rw [inputsFor] at h
    rcases hbuffer : d.buffers.find? binding.buffer with _ | _ | object
    · simp only [hbuffer, reduceCtorEq] at h
    · simp only [hbuffer, reduceCtorEq] at h
    · cases hname : p.inputs.find? location with
      | none => simp only [hbuffer, hname, reduceCtorEq] at h
      | some name =>
        cases hrest : d.inputsFor p rest with
        | error fault => simp only [hbuffer, hname, hrest, Except.map, reduceCtorEq] at h
        | ok others =>
          simp only [hbuffer, hname, hrest, Except.map, Except.ok.injEq] at h
          subst h
          obtain ⟨hbuffers, hinputs⟩ := ih hrest
          exact ⟨List.forall_mem_cons.mpr ⟨⟨object, hbuffer⟩, hbuffers⟩,
            List.forall_mem_cons.mpr ⟨⟨binding.buffer, hbuffer⟩, hinputs⟩⟩

/-- A draw leaves the device as it is and makes nothing, or it makes the array of the program from
the plan, which stays. -/
theorem DrawPath.made_or_eq {vertices : Int} {moments : List (Moment Platform GlDevice)}
    {result : Except Fault Unit} {number : Nat} (h : DrawPath d handle vertices moments result d')
    (hp' : d'.programs.find? handle = some p') (harray : p'.vertexArray = some number) :
    (∃ plan, d.plan handle = .ok plan ∧ d'.plan handle = .ok plan ∧
      ⟨plan.request, .ok number⟩ ∈ moments.map Moment.exchange) ∨
      d' = d ∧ ∀ (plan : VertexPlan) (number : Nat),
        ⟨plan.request, .ok number⟩ ∉ moments.map Moment.exchange := by
  cases h with
  | kept => exact .inr ⟨rfl, by simp [Moment.exchange]⟩
  | planless => exact .inr ⟨rfl, fun _ _ => List.not_mem_nil⟩
  | unmade => exact .inr ⟨rfl, by simp [Moment.exchange]⟩
  | made p hp hnone plan hplan number' d' hd' reply =>
    subst hd'
    have hfound : p' = { p with vertexArray := some number' } := by
      rw [Registry.find?_put, if_pos rfl] at hp'
      exact (Option.some.inj hp').symm
    obtain rfl : number' = number := by
      rw [hfound] at harray
      exact Option.some.inj harray
    refine .inl ⟨plan, hplan, ?_, .head _⟩
    rw [← hplan]
    refine plan_congr hp hp' ?_ ?_ ?_ (fun _ _ => rfl) rfl
    · rw [hfound]
    · rw [hfound]
    · rw [hfound]

/-! ### What disturbs a plan -/

/-- An exchange that may change the plan of a program and **leaves its vertex array**. -/
inductive Disturbing (d : GlDevice) (handle : Handle) : Exchange Device → Prop
  | link (reply : Except Fault Unit) : Disturbing d handle ⟨.linkProgram handle, reply⟩
  | learn (name : String) (reply : Except Fault Int) :
      Disturbing d handle ⟨.attributeLocation handle name, reply⟩
  | upload (p : GlProgram) (hp : d.programs.find? handle = some p) (buffer : Handle)
      (hbinds : Binds p buffer) (data : List UInt8) (reply : Except Fault Unit) :
      Disturbing d handle ⟨.uploadBuffer buffer data, reply⟩
  | deleteBuffer (p : GlProgram) (hp : d.programs.find? handle = some p) (buffer : Handle)
      (hbinds : Binds p buffer) (reply : Except Fault Unit) :
      Disturbing d handle ⟨.deleteBuffer buffer, reply⟩
  | bindRefused (location : Int) (buffer : Handle) (components : Int) (fault : Fault) :
      Disturbing d handle ⟨.bindAttribute handle location buffer components, .error fault⟩

/-- A buffer that is bound by a program with a plan is there. -/
theorem exists_buffer_of_plan {plan : VertexPlan} (hp : d.programs.find? handle = some p)
    (hplan : d.plan handle = .ok plan) {buffer : Handle} (hbinds : Binds p buffer) :
    ∃ object, d.buffers.find? buffer = some (some object) := by
  obtain ⟨e, he, rfl⟩ := hbinds
  obtain ⟨p', linked, hp', -, -, hinputs, -⟩ := exists_of_plan hplan
  obtain rfl : p = p' := Option.some.inj (hp.symm.trans hp')
  exact (exists_buffer_of_inputsFor hinputs).1 e (List.mem_mergeSort.mpr he)

/-- The objects of a plan are in their places. -/
theorem exists_place_of_mem_objects {plan : VertexPlan} (hplan : d.plan handle = .ok plan)
    {o : GpuObject} (ho : o ∈ plan.objects) : ∃ place, d.storage place = some o := by
  obtain ⟨p, linked, hp, hlinked, hprogram, hinputs, -⟩ := exists_of_plan hplan
  rcases List.mem_cons.mp ho with rfl | ho
  · refine ⟨.linked handle, ?_⟩
    simp only [storage, hp, Option.bind_some, hlinked, Option.map_some, hprogram]
  · obtain ⟨input, hinput, rfl⟩ := List.mem_map.mp ho
    obtain ⟨buffer, hbuffer⟩ := (exists_buffer_of_inputsFor hinputs).2 input hinput
    refine ⟨.data buffer, ?_⟩
    simp only [storage, hbuffer, Option.bind_some, Option.map_some]

/-- A buffer that a program binds stays as it is, or the plan was disturbed. -/
theorem Moves.buffer_or_disturbing {x : Exchange Device} {buffer : Handle} {object : Option Nat}
    (h : Moves d x d') (hd : d.Numbered) (hp : d.programs.find? handle = some p)
    (hbinds : Binds p buffer) (hbuffer : d.buffers.find? buffer = some object) :
    d'.buffers.find? buffer = d.buffers.find? buffer ∨ Disturbing d handle x := by
  cases h with
  | aside hcall hcontext hprograms hbuffers hlast => exact .inl (by rw [hbuffers])
  | createShader => exact .inl rfl
  | createProgram => exact .inl rfl
  | createBuffer =>
    have hother : buffer ≠ d.lastHandle + 1 := by
      rintro rfl
      rw [(hd _ (Int.lt_succ d.lastHandle)).2] at hbuffer
      cases hbuffer
    exact .inl (by rw [Registry.find?_put, if_neg hother])
  | amend => exact .inl rfl
  | @upload other data reply object' hobject number =>
    by_cases hother : buffer = other
    · exact .inr (.upload p hp other (hother ▸ hbinds) data reply)
    · exact .inl (by rw [Registry.find?_put, if_neg hother])
  | deleteProgram => exact .inl rfl
  | @deleteBuffer other reply buffers hbuffers =>
    by_cases hother : buffer = other
    · exact .inr (.deleteBuffer p hp other (hother ▸ hbinds) reply)
    · exact .inl (by rw [hbuffers buffer, if_neg (mt List.mem_singleton.mp hother)])

/-- A program that keeps its array through a call that does not draw it is made from the same, or
its plan was disturbed. -/
theorem Amends.array_or_disturbing {x : Exchange Device} {number : Nat}
    (h : Amends x handle p p') (harray : p'.vertexArray = some number)
    (hdraw : ∀ n, x.call ≠ .drawTriangles handle n) :
    p.vertexArray = some number ∧
      (p'.linkedProgram = p.linkedProgram ∧ p'.inputs = p.inputs ∧ p'.bindings = p.bindings ∨
        Disturbing d handle x) := by
  cases h with
  | aside hlinked hinputs hbindings hsame =>
    exact ⟨hsame ▸ harray, .inl ⟨hlinked, hinputs, hbindings⟩⟩
  | link linked => exact ⟨harray, .inr (.link _)⟩
  | learn inputs => exact ⟨harray, .inr (.learn _ _)⟩
  | bind bindings => cases harray
  | bindRefused bindings => exact ⟨harray, .inr (.bindRefused _ _ _ _)⟩
  | draw number' hnone => exact absurd rfl (hdraw _)

/-- A program with an array after a call that does not draw it had that array before, and was made
from the same, or its plan was disturbed. -/
theorem Moves.array_or_disturbing {x : Exchange Device} {number : Nat} (h : Moves d x d')
    (hp' : d'.programs.find? handle = some p') (harray : p'.vertexArray = some number)
    (hdraw : ∀ n, x.call ≠ .drawTriangles handle n) :
    ∃ p, d.programs.find? handle = some p ∧ p.vertexArray = some number ∧
      (p'.linkedProgram = p.linkedProgram ∧ p'.inputs = p.inputs ∧ p'.bindings = p.bindings ∨
        Disturbing d handle x) := by
  have hsame : d.programs.find? handle = some p' →
      ∃ p, d.programs.find? handle = some p ∧ p.vertexArray = some number ∧
        (p'.linkedProgram = p.linkedProgram ∧ p'.inputs = p.inputs ∧ p'.bindings = p.bindings ∨
          Disturbing d handle x) := fun hp => ⟨p', hp, harray, .inl ⟨rfl, rfl, rfl⟩⟩
  cases h with
  | aside hcall hcontext hprograms hbuffers hlast => exact hsame (hprograms ▸ hp')
  | createShader => exact hsame hp'
  | createProgram =>
    rw [Registry.find?_put] at hp'
    split at hp'
    case isTrue =>
      cases hp'
      cases harray
    case isFalse => exact hsame hp'
  | createBuffer => exact hsame hp'
  | @amend _ other p p₁ hcall hp hamends =>
    rw [Registry.find?_put] at hp'
    split at hp'
    case isTrue hother =>
      subst hother
      cases hp'
      exact ⟨p, hp, hamends.array_or_disturbing harray hdraw⟩
    case isFalse => exact hsame hp'
  | upload => exact hsame hp'
  | deleteProgram hprograms => exact hsame (hprograms.within handle p' hp')
  | deleteBuffer => exact hsame hp'

/-- What a call makes of **the plan behind a vertex array**, unless it draws the program: the array
was there before, and the plan is the same or was disturbed. -/
theorem Moves.plan_or_disturbing {x : Exchange Device} {number : Nat} (h : Moves d x d')
    (hd : d.Numbered) (hp' : d'.programs.find? handle = some p')
    (harray : p'.vertexArray = some number) (hdraw : ∀ n, x.call ≠ .drawTriangles handle n) :
    ∃ p, d.programs.find? handle = some p ∧ p.vertexArray = some number ∧
      ∀ plan, d.plan handle = .ok plan → d'.plan handle = .ok plan ∨ Disturbing d handle x := by
  obtain ⟨p, hp, hkept, hprogram⟩ := h.array_or_disturbing hp' harray hdraw
  refine ⟨p, hp, hkept, fun plan hplan => ?_⟩
  by_cases hx : Disturbing d handle x
  · exact .inr hx
  · obtain ⟨hlinked, hinputs, hbindings⟩ := hprogram.resolve_right hx
    refine .inl (hplan ▸ plan_congr hp hp' hlinked hinputs hbindings (fun buffer hbinds => ?_)
      h.hasContext_eq)
    -- A buffer that a plan is over is there, so it is not the one that a call creates.
    obtain ⟨object, hbuffer⟩ := exists_buffer_of_plan hp hplan hbinds
    exact (h.buffer_or_disturbing hd hp hbinds hbuffer).resolve_right hx

end ShaderPreview.GlDevice
