import ShaderPreview.Proofs.Dialogue.Answered
import ShaderPreview.Proofs.Pipeline.Accounting

/-!
# Why a Build Fails

A build of a shape that has a mesh, on a device that refuses nothing, comes to nothing in one way
only: the compiler or the linker gives its **verdict** against the sources. By then the build has
asked for a shader, and a teardown never asks for one; so it can be told from the calls whether a
build was under way.

## Main definitions

* `Fault.IsVerdict`: a fault that the compiler or the linker found.
* `Device.AskedForShader`: a shader was asked for.
* `Pipeline.buildAnew`: a build after what an earlier one left is gone.

## Main results

* `Mesh.exists_ofShape_ofName`: every name stands for a shape that has a mesh.
* `Pipeline.failsOnly_build`, `Pipeline.failsOnly_teardown`: how a build fails; a teardown does not.
* `Pipeline.honours_build_asked`: a build asks for a shader.
-/

namespace ShaderPreview

open Procedure Contract

/-- A fault that **the compiler or the linker** found in the sources. -/
def Fault.IsVerdict : Fault → Prop
  | .pipeline (.compile ..) => True
  | .pipeline (.link ..) => True
  | _ => False

/-- A shader **was asked for**. -/
def Device.AskedForShader (past : List (Exchange Device)) : Prop :=
  ∃ x ∈ past, ∃ stage, x.call = .createShader stage

/-- A shader that was asked for stays asked for. -/
theorem Device.AskedForShader.append {past : List (Exchange Device)} (h : AskedForShader past)
    (x : Exchange Device) : AskedForShader (past ++ [x]) :=
  have ⟨x', hx', hcall⟩ := h
  ⟨x', List.mem_append_left _ hx', hcall⟩

/-- The shapes that names stand for **have a mesh**. -/
theorem Mesh.exists_ofShape_ofName (name : Option String) :
    ∃ mesh, Mesh.ofShape (Shape.ofName name) = .ok mesh := by
  have hnamed : ∀ e ∈ Shape.named, ∃ mesh, Mesh.ofShape e.2 = .ok mesh := by
    intro e he
    simp only [Shape.named, List.mem_cons, List.not_mem_nil, or_false] at he
    rcases he with rfl | rfl | rfl | rfl | rfl
    all_goals exact ⟨_, rfl⟩
  cases name with
  | none => exact ⟨_, rfl⟩
  | some name =>
    rw [Shape.ofName]
    cases hlookup : Shape.named.lookup (String.ofList (Text.lowerCase (Text.trim name.toList))) with
    | none => exact ⟨_, rfl⟩
    | some shape =>
      obtain ⟨before, later, hnames, -⟩ := List.lookup_eq_some_iff.mp hlookup
      exact hnamed (_, shape) (hnames ▸ List.mem_append_right before List.mem_cons_self)

namespace Pipeline

variable {P : Fault → Prop}

/-! ### Releasing -/

/-- A deletion fails only where the device refuses it. -/
theorem failsOnly_delete {o : Owned} : FailsOnly P (delete o) := by
  obtain ⟨kind, handle⟩ := o
  cases kind with
  | shader => exact failsOnly_perform
  | program => exact failsOnly_perform
  | buffer => exact failsOnly_perform

/-- So do several. -/
theorem failsOnly_releaseEach {owned : List Owned} : FailsOnly P (releaseEach owned) := by
  induction owned with
  | nil => exact failsOnly_pure
  | cons o rest ih => exact failsOnly_update.bind fun _ => failsOnly_delete.bind fun _ => ih

/-- So does the release of all handles. -/
theorem failsOnly_releaseAll : FailsOnly P releaseAll :=
  failsOnly_state_bind fun _ => failsOnly_releaseEach

/-- A **teardown** that is answered does not fail. -/
theorem failsOnly_teardown : FailsOnly P teardown := by
  have hrelease : FailsOnly P (do
      releaseAll
      update fun p => { p with program := none, phase := .empty }) :=
    failsOnly_releaseAll.bind fun _ => failsOnly_update
  rw [teardown]
  refine failsOnly_state_bind fun p => ?_
  by_cases howned : p.owned.isEmpty = true
  · simp only [howned]
    exact hrelease
  · simp only [howned]
    exact failsOnly_tell.bind fun _ => hrelease

/-! ### Building -/

/-- Compiling fails by a verdict on the shader. -/
theorem failsOnly_compile {stage : Stage} {source : String} :
    FailsOnly Fault.IsVerdict (compile stage source) := by
  refine failsOnly_perform.bind fun shader => failsOnly_update.bind fun _ =>
    failsOnly_perform.bind fun _ => failsOnly_perform.bind fun compiled => ?_
  cases compiled with
  | true => exact failsOnly_pure
  | false => exact failsOnly_perform.bind fun log => failsOnly_fail trivial

/-- Linking fails by a verdict on the program. -/
theorem failsOnly_link {vertexShader fragmentShader : Handle} :
    FailsOnly Fault.IsVerdict (link vertexShader fragmentShader) := by
  refine failsOnly_perform.bind fun program => failsOnly_update.bind fun _ =>
    failsOnly_perform.bind fun _ => failsOnly_perform.bind fun _ =>
    failsOnly_perform.bind fun _ => failsOnly_perform.bind fun linked => ?_
  cases linked with
  | true => exact failsOnly_pure
  | false => exact failsOnly_perform.bind fun log => failsOnly_fail trivial

/-- An upload fails only where the device refuses it. -/
theorem failsOnly_upload {data : List UInt8} : FailsOnly P (upload data) :=
  failsOnly_perform.bind fun _ => failsOnly_update.bind fun _ =>
    failsOnly_perform.bind fun _ => failsOnly_pure

/-- So does feeding an attribute. -/
theorem failsOnly_feed {program buffer : Handle} {name : String} :
    FailsOnly P (feed program name buffer) := by
  refine failsOnly_perform.bind fun location => ?_
  by_cases hlocation : (location != Device.absent) = true
  · simp only [hlocation, if_true]
    exact failsOnly_perform.bind fun _ => failsOnly_pure
  · simp only [hlocation]
    exact failsOnly_pure

/-- So does putting a mesh behind a program, for a shape that has one. -/
theorem failsOnly_bindMesh {vertexShader fragmentShader program : Handle} {shape : Shape}
    {mesh : Mesh} (hmesh : Mesh.ofShape shape = .ok mesh) :
    FailsOnly P (bindMesh vertexShader fragmentShader program shape) := by
  rw [bindMesh, hmesh]
  exact failsOnly_pure.bind fun mesh => failsOnly_upload.bind fun _ =>
    failsOnly_upload.bind fun _ => failsOnly_feed.bind fun _ =>
      failsOnly_feed.bind fun _ => failsOnly_pure

/-- Assembling fails by a verdict, for a shape that has a mesh. -/
theorem failsOnly_assemble {vertex fragment : String} {shape : Shape} {mesh : Mesh}
    (hmesh : Mesh.ofShape shape = .ok mesh) :
    FailsOnly Fault.IsVerdict (assemble vertex fragment shape) :=
  failsOnly_update.bind fun _ => failsOnly_compile.bind fun _ => failsOnly_compile.bind fun _ =>
    failsOnly_link.bind fun _ => failsOnly_update.bind fun _ =>
    (failsOnly_bindMesh hmesh).bind fun _ => failsOnly_update.bind fun _ => failsOnly_pure

/-- A build **after what an earlier one left** is gone. -/
def buildAnew (vertex fragment : String) (shape : Shape) : DeviceProcedure Pipeline Program := do
  let program ← (assemble vertex fragment shape).onFault do
    releaseAll
    enter .failed
  update fun p => { p with program := some program, phase := .active }
  tell (.programActive shape program.vertexCount)
  return program

/-- A build is a build anew, after a teardown where there is something left. -/
theorem build_eq (vertex fragment : String) (shape : Shape) :
    build vertex fragment shape = (do
      let p ← state
      if p.phase = .empty then buildAnew vertex fragment shape
      else do
        teardown
        buildAnew vertex fragment shape) := by
  funext p
  obtain ⟨phase, owned, program⟩ := p
  cases phase with
  | _ => rfl

/-- A **build** that is answered fails only with the verdict of the compiler or the linker. -/
theorem failsOnly_build {vertex fragment : String} {shape : Shape} {mesh : Mesh}
    (hmesh : Mesh.ofShape shape = .ok mesh) :
    FailsOnly Fault.IsVerdict (build vertex fragment shape) := by
  have hanew : FailsOnly Fault.IsVerdict (buildAnew vertex fragment shape) := by
    refine FailsOnly.bind ?_ fun program => failsOnly_update.bind fun _ =>
      failsOnly_tell.bind fun _ => failsOnly_pure
    exact (failsOnly_assemble hmesh).handle fun fault hfault =>
      (failsOnly_releaseAll.bind fun _ => failsOnly_update).bind fun _ => failsOnly_fail hfault
  rw [build_eq]
  refine failsOnly_state_bind fun p => ?_
  split
  · exact hanew
  · exact failsOnly_teardown.bind fun _ => hanew

/-! ### The first call -/

/-- A build that is answered **asks for a shader**. -/
theorem honours_build_asked {vertex fragment : String} {shape : Shape} :
    Honours (lax Answered) (fun _ _ => True) (build vertex fragment shape)
      (fun past _ _ => Device.AskedForShader past) fun past _ _ => Device.AskedForShader past := by
  have hstays : ∀ {α : Type} {p : DeviceProcedure Pipeline α},
      Honours (lax Answered) (fun past _ => Device.AskedForShader past) p
        (fun past _ _ => Device.AskedForShader past) fun past _ _ => Device.AskedForShader past :=
    honours_of_past (fun _ x h => h.append x) fun _ _ h => h
  have hfirst : Honours (lax Answered) (fun _ _ => True)
      (Device.ask (.createShader .vertex) : DeviceProcedure Pipeline Handle)
      (fun past _ _ => Device.AskedForShader past) fun past _ _ => Device.AskedForShader past :=
    honours_perform (fun _ _ _ => trivial)
      (fun past _ _ _ _ => ⟨_, List.mem_append_right past (List.mem_singleton_self _), _, rfl⟩)
      fun _ _ _ _ h => absurd h not_exists_error_eq_ok
  have hassemble : Honours (lax Answered) (fun _ _ => True) (assemble vertex fragment shape)
      (fun past _ _ => Device.AskedForShader past) fun past _ _ => Device.AskedForShader past :=
    Honours.bind (honours_update fun _ _ _ => trivial) fun _ =>
      Honours.bind (Honours.bind hfirst fun _ => hstays) fun _ => hstays
  have hanew : Honours (lax Answered) (fun _ _ => True) (buildAnew vertex fragment shape)
      (fun past _ _ => Device.AskedForShader past) fun past _ _ => Device.AskedForShader past :=
    Honours.bind (hassemble.onFault fun _ => hstays) fun _ => hstays
  rw [build_eq]
  refine honours_state_bind fun p => ?_
  refine Honours.mono ?_ (fun _ _ _ => trivial) (fun _ _ _ h => h) (fun _ _ _ h => h)
  split
  · exact hanew
  · exact Honours.bind (failsOnly_teardown.weaken_err fun _ _ _ h => False.elim h)
      fun _ => hanew

end Pipeline

end ShaderPreview
