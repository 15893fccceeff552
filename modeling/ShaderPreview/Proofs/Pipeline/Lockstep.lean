import ShaderPreview.Proofs.Device.Lockstep

/-!
# Pipelines in Step

A pipeline knows of handles only what the device gave it. So pipelines that differ by a shift of
their handles do the same on devices in step: whatever they own is given back in the same order, and
what they build is the same program under shifted handles, or fails with the same verdict.

## Main definitions

* `Shift.program`, `Shift.pipeline`: a program and a pipeline under shifted handles.

## Main results

* `Pipeline.follows_teardown`, `Pipeline.follows_build`: teardowns and builds go along.
-/

namespace ShaderPreview

open Procedure

namespace Shift

variable (k : Shift)

/-- What is owned, **under a shifted handle**. -/
def owned (o : Owned) : Owned := { o with handle := o.handle + k.handles }

/-- A program **under shifted handles**. -/
def program (p : Program) : Program :=
  { p with
    vertexShader := p.vertexShader + k.handles
    fragmentShader := p.fragmentShader + k.handles
    program := p.program + k.handles
    positionBuffer := p.positionBuffer + k.handles
    normalBuffer := p.normalBuffer + k.handles }

/-- A pipeline **under shifted handles**. -/
def pipeline (p : Pipeline) : Pipeline :=
  { p with owned := p.owned.map k.owned, program := p.program.map k.program }

/-- A pipeline **is the other one**, under shifted handles. -/
def Pipelines (p p' : Pipeline) : Prop := p' = k.pipeline p

/-- A program whose handle is above a floor **is the other one**, under shifted handles. -/
def Programs (floor : Handle) (p p' : Program) : Prop := floor < p.program ∧ p' = k.program p

end Shift

namespace Pipeline

variable {k : Shift} {floor : Handle}

/-! ### Releasing -/

/-- A change that is made in the same way on either side. -/
theorem follows_change {f f' : Pipeline → Pipeline}
    (h : ∀ p, f' (k.pipeline p) = k.pipeline (f p)) :
    k.Follows floor k.Pipelines (update f) (update f') fun _ _ => True :=
  Shift.follows_update fun p p' hp => by rw [hp]; exact h p

/-- Handles in the same place are deleted alike. -/
theorem follows_delete (o : Owned) :
    k.Follows floor k.Pipelines (delete o) (delete (k.owned o)) fun _ _ => True := by
  obtain ⟨kind, handle⟩ := o
  cases kind with
  | shader =>
    exact .of_bind_pure <| Shift.follows_silent (.moved (.deleteShader handle) nofun) fun _ _ =>
      Shift.follows_pure trivial
  | program =>
    exact .of_bind_pure <| Shift.follows_silent (.moved (.deleteProgram handle) nofun) fun _ _ =>
      Shift.follows_pure trivial
  | buffer =>
    exact .of_bind_pure <| Shift.follows_silent (.moved (.deleteBuffer handle) nofun) fun _ _ =>
      Shift.follows_pure trivial

/-- So are several of them, one after another. -/
theorem follows_releaseEach (owned : List Owned) :
    k.Follows floor k.Pipelines (releaseEach owned) (releaseEach (owned.map k.owned))
      fun _ _ => True := by
  induction owned with
  | nil => exact Shift.follows_pure trivial
  | cons o rest ih =>
    refine Shift.Follows.bind (follows_change ?_) fun _ _ _ =>
      (follows_delete o).bind fun _ _ _ => ih
    exact fun _ => rfl

/-- Pipelines in lockstep own handles in the same places, and release them alike. -/
theorem follows_releaseAll :
    k.Follows floor k.Pipelines releaseAll releaseAll fun _ _ => True := by
  refine Shift.follows_state_bind fun p p' hp => ?_
  rw [hp]
  exact follows_releaseEach p.owned

/-- **Teardowns** go along. -/
theorem follows_teardown :
    k.Follows floor k.Pipelines teardown teardown fun _ _ => True := by
  have hrelease : k.Follows floor k.Pipelines
      (do
        releaseAll
        update fun p => { p with program := none, phase := .empty })
      (do
        releaseAll
        update fun p => { p with program := none, phase := .empty }) fun _ _ => True :=
    follows_releaseAll.bind fun _ _ _ => follows_change fun _ => rfl
  rw [teardown]
  refine Shift.follows_state_bind fun p p' hp => ?_
  have hempty : p'.owned.isEmpty = p.owned.isEmpty := by
    rw [hp]
    exact List.isEmpty_map
  by_cases howned : p.owned.isEmpty = true
  · simp only [hempty, howned]
    exact hrelease
  · simp only [hempty, howned]
    exact Shift.follows_tell.bind fun _ _ _ => hrelease

/-! ### Building -/

/-- Pipelines acquire handles in the same place alike. -/
theorem follows_acquire {kind : HandleKind} {handle : Handle} :
    k.Follows floor k.Pipelines (acquire kind handle) (acquire kind (handle + k.handles))
      fun _ _ => True :=
  follows_change fun _ => rfl

/-- Pipelines compile alike, under handles as far apart as the others. -/
theorem follows_compile (stage : Stage) (source : String) :
    k.Follows floor k.Pipelines (compile stage source) (compile stage source)
      (k.Handles floor) := by
  refine Shift.follows_ask (k.Handles floor) (.moved (.createShader stage) nofun)
    (fun _ _ h => h.createShader stage) ?_
  rintro shader _ ⟨habove, rfl⟩
  refine follows_acquire.bind fun _ _ _ => ?_
  refine Shift.follows_ask (fun _ _ => True) (.moved (.compileShader shader source) nofun)
    (fun _ _ h => ⟨h.compile habove source, trivial⟩) fun _ _ _ => ?_
  refine Shift.follows_ask (fun a a' : Bool => a = a') (.moved (.shaderCompiled shader) nofun)
    (fun d d' h => ⟨h, by
      show _ = ((d'.shaders.find? (shader + k.handles)).map _).getD false
      rw [h.shaders_eq shader habove]
      rfl⟩) ?_
  rintro compiled _ rfl
  cases compiled with
  | true => exact Shift.follows_pure ⟨habove, rfl⟩
  | false =>
    refine Shift.follows_ask k.Logs (.moved (.shaderInfoLog shader) nofun)
      (fun _ _ h => ⟨h, h.shaderLog habove⟩) fun log log' hlog => ?_
    exact Shift.follows_fail (.compile stage none hlog)

/-- Pipelines link shaders in the same places alike. -/
theorem follows_link {vertexShader fragmentShader : Handle} (hvertex : floor < vertexShader)
    (hfragment : floor < fragmentShader) :
    k.Follows floor k.Pipelines (link vertexShader fragmentShader)
      (link (vertexShader + k.handles) (fragmentShader + k.handles)) (k.Handles floor) := by
  refine Shift.follows_ask (k.Handles floor) (.moved .createProgram nofun)
    (fun _ _ h => h.createProgram) ?_
  rintro program _ ⟨habove, rfl⟩
  refine follows_acquire.bind fun _ _ _ => ?_
  refine Shift.follows_ask (fun _ _ => True) (.moved (.attachShader program vertexShader) nofun)
    (fun _ _ h => ⟨h.attach habove hvertex, trivial⟩) fun _ _ _ => ?_
  refine Shift.follows_ask (fun _ _ => True) (.moved (.attachShader program fragmentShader) nofun)
    (fun _ _ h => ⟨h.attach habove hfragment, trivial⟩) fun _ _ _ => ?_
  refine Shift.follows_ask (fun _ _ => True) (.moved (.linkProgram program) nofun)
    (fun _ _ h => ⟨h.link habove, trivial⟩) fun _ _ _ => ?_
  refine Shift.follows_ask (fun a a' : Bool => a = a') (.moved (.programLinked program) nofun)
    (fun d d' h => ⟨h, by
      show _ = ((d'.programs.find? (program + k.handles)).map _).getD false
      rw [h.programs_eq program habove, Option.map_map]
      rfl⟩) ?_
  rintro linked _ rfl
  cases linked with
  | true => exact Shift.follows_pure ⟨habove, rfl⟩
  | false =>
    refine Shift.follows_ask k.Logs (.moved (.programInfoLog program) nofun)
      (fun _ _ h => ⟨h, "program", by simp, program, rfl, rfl⟩) fun log log' hlog => ?_
    exact Shift.follows_fail (.link none hlog)

/-- Pipelines upload alike. -/
theorem follows_upload (data : List UInt8) :
    k.Follows floor k.Pipelines (upload data) (upload data) (k.Handles floor) := by
  refine Shift.follows_ask (k.Handles floor) (.moved .createBuffer nofun)
    (fun _ _ h => ⟨h.fresh, h.handles_fresh⟩) ?_
  rintro buffer _ ⟨habove, rfl⟩
  refine follows_acquire.bind fun _ _ _ => ?_
  refine Shift.follows_silent (.moved (.uploadBuffer buffer data) nofun) fun _ _ => ?_
  exact Shift.follows_pure ⟨habove, rfl⟩

/-- Pipelines feed attributes alike, which have the same locations. -/
theorem follows_feed {program : Handle} (hprogram : floor < program) (name : String)
    (buffer : Handle) :
    k.Follows floor k.Pipelines (feed program name buffer)
      (feed (program + k.handles) name (buffer + k.handles)) fun a a' => a = a' := by
  refine Shift.follows_ask (fun a a' : Int => a = a')
    (.moved (.attributeLocation program name) nofun)
    (fun _ _ h => ⟨h, (h.location hprogram _ _ name).symm⟩) ?_
  rintro location _ rfl
  by_cases hlocation : (location != Device.absent) = true
  · simp only [hlocation, if_true]
    exact Shift.follows_silent (.moved (.bindAttribute program location buffer components) nofun)
      fun _ _ => Shift.follows_pure rfl
  · simp only [hlocation]
    exact Shift.follows_pure rfl

/-- Pipelines put the same mesh behind programs in the same place. -/
theorem follows_bindMesh {vertexShader fragmentShader program : Handle} {shape : Shape}
    {mesh : Mesh} (hprogram : floor < program) (hmesh : Mesh.ofShape shape = .ok mesh) :
    k.Follows floor k.Pipelines (bindMesh vertexShader fragmentShader program shape)
      (bindMesh (vertexShader + k.handles) (fragmentShader + k.handles) (program + k.handles) shape)
      (k.Programs floor) := by
  rw [bindMesh, bindMesh, hmesh]
  refine Shift.Follows.bind (Q := fun a a' => a = a') (Shift.follows_pure rfl) ?_
  rintro mesh _ rfl
  refine (follows_upload mesh.positionBytes).bind ?_
  rintro positionBuffer _ ⟨-, rfl⟩
  refine (follows_upload mesh.normalBytes).bind ?_
  rintro normalBuffer _ ⟨-, rfl⟩
  refine (follows_feed hprogram positionAttribute positionBuffer).bind ?_
  rintro positionLocation _ rfl
  refine (follows_feed hprogram normalAttribute normalBuffer).bind ?_
  rintro normalLocation _ rfl
  exact Shift.follows_pure ⟨hprogram, rfl⟩

/-- Pipelines enter a phase together. -/
theorem follows_enter (phase : Phase) :
    k.Follows floor k.Pipelines (enter phase) (enter phase) fun _ _ => True :=
  follows_change fun _ => rfl

/-- Pipelines assemble programs in the same place. -/
theorem follows_assemble {vertex fragment : String} {shape : Shape} {mesh : Mesh}
    (hmesh : Mesh.ofShape shape = .ok mesh) :
    k.Follows floor k.Pipelines (assemble vertex fragment shape) (assemble vertex fragment shape)
      (k.Programs floor) := by
  refine (follows_enter .compiling).bind fun _ _ _ => ?_
  refine (follows_compile .vertex vertex).bind ?_
  rintro vertexShader _ ⟨hvertex, rfl⟩
  refine (follows_compile .fragment fragment).bind ?_
  rintro fragmentShader _ ⟨hfragment, rfl⟩
  refine (follows_link hvertex hfragment).bind ?_
  rintro program _ ⟨hprogram, rfl⟩
  refine (follows_enter .linked).bind fun _ _ _ => ?_
  refine (follows_bindMesh hprogram hmesh).bind fun p p' hp => ?_
  exact (follows_enter .bound).bind fun _ _ _ => Shift.follows_pure hp

/-- **Builds** of a shape that has a mesh go along. -/
theorem follows_build {vertex fragment : String} {shape : Shape} {mesh : Mesh}
    (hmesh : Mesh.ofShape shape = .ok mesh) :
    k.Follows floor k.Pipelines (build vertex fragment shape) (build vertex fragment shape)
      (k.Programs floor) := by
  have hanew : k.Follows floor k.Pipelines (buildAnew vertex fragment shape)
      (buildAnew vertex fragment shape) (k.Programs floor) := by
    refine Shift.Follows.bind (Shift.Follows.handle (follows_assemble hmesh) fun _ _ hfault =>
      (follows_releaseAll.bind fun _ _ _ => follows_enter .failed).bind fun _ _ _ =>
        Shift.follows_fail hfault) ?_
    rintro program _ ⟨habove, rfl⟩
    refine Shift.Follows.bind (follows_change ?_) fun _ _ _ =>
      Shift.follows_tell.bind fun _ _ _ => Shift.follows_pure ⟨habove, rfl⟩
    exact fun _ => rfl
  rw [build_eq]
  refine Shift.follows_state_bind fun p p' hp => ?_
  rw [hp]
  show k.Follows floor k.Pipelines _ (if p.phase = .empty then _ else _) _
  split
  · exact hanew
  · exact follows_teardown.bind fun _ _ _ => hanew

end Pipeline

end ShaderPreview
