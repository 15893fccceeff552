import ShaderPreview.Proofs.Pipeline.Upkeep
import ShaderPreview.Proofs.Pipeline.Verdicts

/-!
# The Supply of a Program

A program is drawn from two buffers, so many corners at a time. Nothing on the device checks that
the buffers hold that many: the number of corners goes with the program, and the bytes go to the
device. Both come from one mesh, so they agree, for every shape and whatever the device does.

A device may give one handle several times. A buffer is therefore judged by what came after it was
created **last**.

## Main definitions

* `Device.Supplied`: a buffer received one upload since it was created.
* `Program.SuppliedIn`: both buffers of a program received twelve bytes to a corner, and the corners
  make whole triangles.
* `Pipeline.KeepsSupplied`: what holds of a pipeline between any two of its calls.

## Main results

* `Mesh.three_dvd_vertexCount`: a mesh is made of whole triangles.
* `Pipeline.supplies_build`: the program that a build gives is supplied.
* `Pipeline.honours_teardown_supplied`, `Pipeline.honours_build_supplied`: as long as a pipeline has
  a program, the program is supplied.
-/

namespace ShaderPreview

open Procedure Device

/-! ### Whole triangles -/

namespace Mesh

/-- A mesh that is read off a net has that net. -/
theorem exists_net_of_map {net : Except Fault Net} {mesh : Mesh} (h : ofNet <$> net = .ok mesh) :
    ∃ n, net = .ok n ∧ ofNet n = mesh := by
  cases net with
  | error fault => cases h
  | ok n => exact ⟨n, rfl, Except.ok.inj h⟩

/-- The mesh of a shape is made of **whole triangles**. -/
theorem three_dvd_vertexCount {shape : Shape} {mesh : Mesh} (h : ofShape shape = .ok mesh) :
    3 ∣ mesh.vertexCount := by
  have hcube : 3 ∣ cube.vertexCount := ⟨12, rfl⟩
  have hnet : ∀ {net : Except Fault Net}, ofNet <$> net = .ok mesh → 3 ∣ mesh.vertexCount := by
    intro net h
    obtain ⟨n, -, rfl⟩ := exists_net_of_map h
    rw [vertexCount, ofNet, n.length_corners]
    exact n.whole
  cases shape with
  | cube => exact Except.ok.inj h ▸ hcube
  | sphere s => exact hnet h
  | plane p => exact Except.ok.inj h ▸ ⟨2, rfl⟩
  | cylinder c => exact hnet h
  | torus t => exact hnet h
  | unrecognized label => exact Except.ok.inj h ▸ hcube

end Mesh

/-! ### Supplied buffers -/

namespace Device

variable {past : List (Exchange Device)} {x : Exchange Device} {buffer : Handle}
  {data : List UInt8}

/-- Whether an exchange **uploads** into a buffer. -/
def uploadsTo (buffer : Handle) (x : Exchange Device) : Bool :=
  match x.call with
  | .uploadBuffer target _ => target == buffer
  | _ => false

/-- A buffer received **one upload** since it was created, with these bytes. -/
def Supplied (past : List (Exchange Device)) (buffer : Handle) (data : List UInt8) : Prop :=
  ∃ before since, past = before ++ ⟨.createBuffer, .ok buffer⟩ :: since ∧
    (∀ x ∈ since, obtained? x ≠ some ⟨.buffer, buffer⟩) ∧
      since.filter (uploadsTo buffer) = [⟨.uploadBuffer buffer data, .ok ()⟩]

/-- What neither creates the buffer anew nor uploads into it leaves it supplied. -/
theorem Supplied.append (h : Supplied past buffer data)
    (hcreate : obtained? x ≠ some ⟨.buffer, buffer⟩) (hupload : uploadsTo buffer x = false) :
    Supplied (past ++ [x]) buffer data := by
  obtain ⟨before, since, rfl, hlast, honce⟩ := h
  refine ⟨before, since ++ [x], by rw [List.append_assoc, List.cons_append], ?_, ?_⟩
  · exact List.forall_mem_append.mpr ⟨hlast, List.forall_mem_singleton.mpr hcreate⟩
  · rw [List.filter_append, honce, List.filter_cons_of_neg (Bool.eq_false_iff.mp hupload),
      List.filter_nil, List.append_nil]

/-- A buffer that is filled as soon as it is created is supplied. -/
theorem supplied_of_upload (past : List (Exchange Device)) (buffer : Handle) (data : List UInt8) :
    Supplied (past ++ [⟨.createBuffer, .ok buffer⟩] ++ [⟨.uploadBuffer buffer data, .ok ()⟩]) buffer
      data := by
  refine ⟨past, [⟨.uploadBuffer buffer data, .ok ()⟩], by simp, ?_, ?_⟩
  · exact List.forall_mem_singleton.mpr nofun
  · simp [uploadsTo]

/-- Whether a call **makes or fills a buffer**. -/
def Call.supplies : Device.Call → Bool
  | .createBuffer => true
  | .uploadBuffer .. => true
  | _ => false

/-- Only what makes or fills a buffer has to do with supply. -/
theorem Supplied.keep (h : Supplied past buffer data) (hx : x.call.supplies = false) :
    Supplied (past ++ [x]) buffer data := by
  obtain ⟨call, reply⟩ := x
  refine h.append (fun hc => ?_) ?_
  · cases call <;> first | exact absurd hx.symm Bool.false_ne_true | (cases reply <;> cases hc)
  · cases call <;> first | exact absurd hx.symm Bool.false_ne_true | rfl

/-- Buffers that each received **so many bytes** since they were created. -/
def AllSupplied (size : Nat) (buffers : List Handle) (past : List (Exchange Device)) : Prop :=
  ∀ buffer ∈ buffers, ∃ data, Supplied past buffer data ∧ data.length = size

/-- A call that has nothing to do with buffers leaves them supplied. -/
theorem AllSupplied.keep {size : Nat} {buffers : List Handle} (h : AllSupplied size buffers past)
    (hx : x.call.supplies = false) : AllSupplied size buffers (past ++ [x]) := by
  intro buffer hbuffer
  obtain ⟨data, hdata, hsize⟩ := h buffer hbuffer
  exact ⟨data, hdata.keep hx, hsize⟩

/-- One more buffer is supplied, whether its handle is a new one or not. -/
theorem AllSupplied.cons {size : Nat} {buffers : List Handle} (h : AllSupplied size buffers past)
    (hdata : data.length = size) :
    AllSupplied size (buffer :: buffers)
      (past ++ [⟨.createBuffer, .ok buffer⟩] ++ [⟨.uploadBuffer buffer data, .ok ()⟩]) := by
  intro other hother
  by_cases hsame : other = buffer
  · rw [hsame]
    exact ⟨data, supplied_of_upload past buffer data, hdata⟩
  · obtain ⟨data', hdata', hsize⟩ := h other ((List.mem_cons.mp hother).resolve_left hsame)
    refine ⟨data', (hdata'.append ?_ ?_).append ?_ ?_, hsize⟩
    · exact fun hc => hsame (Owned.mk.inj (Option.some.inj hc)).2.symm
    · rfl
    · exact nofun
    · exact beq_eq_false_iff_ne.mpr (Ne.symm hsame)

end Device

/-- A program is **supplied**: its corners make whole triangles, and each of its two buffers
received one upload since it was created, of twelve bytes to a corner. -/
structure Program.SuppliedIn (past : List (Exchange Device)) (p : Program) : Prop where
  whole : 3 ∣ p.vertexCount
  buffers : AllSupplied (12 * p.vertexCount) [p.normalBuffer, p.positionBuffer] past

/-- A call that has nothing to do with buffers leaves a program supplied. -/
theorem Program.SuppliedIn.keep {past : List (Exchange Device)} {x : Exchange Device} {p : Program}
    (h : p.SuppliedIn past) (hx : x.call.supplies = false) : p.SuppliedIn (past ++ [x]) :=
  ⟨h.whole, h.buffers.keep hx⟩

/-! ### Building -/

namespace Pipeline

variable {relies : List (Exchange Device) → Exchange Device → Prop} {size : Nat}
  {buffers : List Handle}

/-- What leads **from one supply to another**. Nothing is said of failures. -/
abbrev Supplies {α : Type} (relies : List (Exchange Device) → Exchange Device → Prop)
    (pre : List (Exchange Device) → Prop) (p : DeviceProcedure Pipeline α)
    (ok : List (Exchange Device) → α → Prop) : Prop :=
  Honours (.lax relies) (fun past _ => pre past) p (fun past a _ => ok past a) fun _ _ _ => True

/-- A call that does not make or fill a buffer leaves the others supplied. -/
theorem supplies_ask {call : Device.Call} (hcall : call.supplies = false) :
    Supplies relies (AllSupplied size buffers) (Device.ask call)
      fun past _ => AllSupplied size buffers past :=
  honours_perform (fun _ _ _ => trivial) (fun _ _ _ h _ => h.keep hcall) fun _ _ _ _ _ => trivial

/-- A buffer has **just been created**, and the others are supplied. -/
def JustCreated (size : Nat) (buffers : List Handle) (buffer : Handle)
    (past : List (Exchange Device)) : Prop :=
  ∃ earlier, past = earlier ++ [⟨.createBuffer, .ok buffer⟩] ∧ AllSupplied size buffers earlier

/-- An upload supplies one more buffer. -/
theorem supplies_upload {data : List UInt8} (hdata : data.length = size) :
    Supplies relies (AllSupplied size buffers) (upload data)
      fun past buffer => AllSupplied size (buffer :: buffers) past := by
  have hcreate : Supplies relies (AllSupplied size buffers) (Device.ask .createBuffer)
      fun past buffer => JustCreated size buffers buffer past :=
    honours_perform (fun _ _ _ => trivial) (fun past _ _ h _ => ⟨past, rfl, h⟩)
      fun _ _ _ _ _ => trivial
  have hacquire : ∀ buffer, Supplies relies (JustCreated size buffers buffer)
      (acquire .buffer buffer) fun past _ => JustCreated size buffers buffer past := fun buffer =>
    honours_update fun _ _ h => h
  have hfill : ∀ buffer, Supplies relies (JustCreated size buffers buffer)
      (Device.ask (.uploadBuffer buffer data))
      fun past _ => AllSupplied size (buffer :: buffers) past := by
    intro buffer
    refine honours_perform (fun _ _ _ => trivial) ?_ fun _ _ _ _ _ => trivial
    rintro _ _ ⟨⟩ ⟨earlier, rfl, h⟩ -
    exact h.cons hdata
  exact Honours.bind hcreate fun buffer => Honours.bind (hacquire buffer) fun _ =>
    Honours.bind (hfill buffer) fun _ => honours_pure fun _ _ h => h

/-- Feeding an attribute leaves the buffers supplied. -/
theorem supplies_feed {program buffer : Handle} {name : String} :
    Supplies relies (AllSupplied size buffers) (feed program name buffer)
      fun past _ => AllSupplied size buffers past := by
  refine Honours.bind (supplies_ask rfl) fun location => ?_
  by_cases hlocation : (location != absent) = true
  · simp only [hlocation, if_true]
    exact Honours.bind (supplies_ask rfl) fun _ => honours_pure fun _ _ h => h
  · simp only [hlocation]
    exact honours_pure fun _ _ h => h

/-- A program **comes from the mesh** of a shape: it has as many corners, and is supplied with
them. -/
def ComesFrom (shape : Shape) (past : List (Exchange Device)) (q : Program) : Prop :=
  (∃ mesh, Mesh.ofShape shape = .ok mesh ∧ q.vertexCount = mesh.vertexCount) ∧ q.SuppliedIn past

/-- Putting a mesh behind a program supplies the program. -/
theorem supplies_bindMesh {vertexShader fragmentShader program : Handle} {shape : Shape} :
    Supplies relies (fun _ => True) (bindMesh vertexShader fragmentShader program shape)
      (ComesFrom shape) := by
  have hmesh : Supplies relies (fun _ => True) (ofExcept (Mesh.ofShape shape))
      fun past mesh => AllSupplied (12 * mesh.vertexCount) [] past ∧
        Mesh.ofShape shape = .ok mesh := by
    refine honours_ofExcept fun past s _ => ?_
    cases h : Mesh.ofShape shape with
    | error fault => exact trivial
    | ok mesh => exact ⟨fun _ hnone => absurd hnone List.not_mem_nil, rfl⟩
  refine Honours.bind hmesh fun mesh => honours_given fun hmesh => ?_
  refine Honours.bind (supplies_upload mesh.length_positionBytes) fun positionBuffer => ?_
  refine Honours.bind (supplies_upload mesh.length_normalBytes) fun normalBuffer => ?_
  refine Honours.bind supplies_feed fun _ => Honours.bind supplies_feed fun _ => ?_
  exact honours_pure fun past _ h =>
    ⟨⟨mesh, hmesh, rfl⟩, Mesh.three_dvd_vertexCount hmesh, h⟩

/-- Before the mesh is put in there is nothing to supply. -/
theorem supplies_nothing {α : Type} {p : DeviceProcedure Pipeline α} :
    Supplies relies (fun _ => True) p fun _ _ => True :=
  honours_of_past (P := fun _ => True) (fun _ _ h => h) fun _ _ h => h

/-- The steps of a build supply the program that they give. -/
theorem supplies_assemble {vertex fragment : String} {shape : Shape} :
    Supplies relies (fun _ => True) (assemble vertex fragment shape) (ComesFrom shape) := by
  rw [assemble]
  refine Honours.bind supplies_nothing fun _ => Honours.bind supplies_nothing fun _ => ?_
  refine Honours.bind supplies_nothing fun _ => Honours.bind supplies_nothing fun _ => ?_
  refine Honours.bind supplies_nothing fun _ => Honours.bind supplies_bindMesh fun q => ?_
  exact Honours.bind (honours_update fun _ _ h => h) fun _ => honours_pure fun _ _ h => h

/-- **A build** supplies the program that it gives, whatever there was before. -/
theorem supplies_build {vertex fragment : String} {shape : Shape} :
    Supplies relies (fun _ => True) (build vertex fragment shape) (ComesFrom shape) := by
  have hanew : Supplies relies (fun _ => True) (buildAnew vertex fragment shape)
      (ComesFrom shape) :=
    Honours.bind (supplies_assemble.onFault fun _ => supplies_nothing) fun q =>
      Honours.bind (honours_update fun _ _ h => h) fun _ =>
        Honours.bind (honours_tell fun _ _ h => h) fun _ => honours_pure fun _ _ h => h
  rw [build_eq]
  refine honours_state_bind fun p => ?_
  refine Honours.mono ?_ (fun _ _ h => h.2) (fun _ _ _ h => h) (fun _ _ _ h => h)
  split
  · exact hanew
  · exact Honours.bind supplies_nothing fun _ => hanew

/-! ### A pipeline and its program -/

/-- As long as a pipeline **has a program**, the program is supplied. In the empty phase it has
none. -/
structure KeepsSupplied (past : List (Exchange Device)) (p : Pipeline) : Prop where
  program_of_empty : p.phase = .empty → p.program = none
  supplied : ∀ q, p.program = some q → q.SuppliedIn past

/-- A pipeline without a program has nothing to keep supplied. -/
theorem keepsSupplied_of_none {past : List (Exchange Device)} {p : Pipeline}
    (h : p.program = none) : KeepsSupplied past p :=
  ⟨fun _ => h, fun q hq => by rw [h] at hq; cases hq⟩

/-- A call that has nothing to do with buffers leaves the pipeline's program supplied. -/
theorem KeepsSupplied.keep {past : List (Exchange Device)} {x : Exchange Device} {p : Pipeline}
    (h : KeepsSupplied past p) (hx : x.call.supplies = false) : KeepsSupplied (past ++ [x]) p :=
  ⟨h.program_of_empty, fun q hq => (h.supplied q hq).keep hx⟩

/-- So does a deletion, which puts nothing into a buffer. -/
theorem keepsSupplied_delete {o : Owned} :
    Keeps (.lax relies) KeepsSupplied (delete o) := by
  have hask : ∀ {call : Device.Call}, call.supplies = false →
      Keeps (.lax relies) KeepsSupplied (Device.ask call : DeviceProcedure Pipeline _) :=
    fun hcall => honours_perform (fun _ _ _ => trivial) (fun _ _ _ h _ => h.keep hcall)
      fun _ _ _ h _ => h.keep hcall
  obtain ⟨kind, handle⟩ := o
  cases kind with
  | shader => exact hask rfl
  | program => exact hask rfl
  | buffer => exact hask rfl

/-- So does a release of all handles, however far it comes. -/
theorem keepsSupplied_releaseAll : Keeps (.lax relies) KeepsSupplied releaseAll := by
  have heach : ∀ owned, Keeps (.lax relies) KeepsSupplied (releaseEach owned) := by
    intro owned
    induction owned with
    | nil => exact honours_pure fun _ _ h => h
    | cons o rest ih =>
      have hstrike : Keeps (.lax relies) KeepsSupplied
          (update fun p : Pipeline => { p with owned := rest }) :=
        honours_update fun _ _ h => ⟨h.program_of_empty, h.supplied⟩
      exact Honours.bind hstrike fun _ => Honours.bind keepsSupplied_delete fun _ => ih
  exact honours_state_bind fun s => (heach s.owned).mono (fun _ _ h => h.2) (fun _ _ _ h => h)
    fun _ _ _ h => h

/-- A **teardown** that comes to its end leaves no program, and one that does not leaves what was
supplied. -/
theorem honours_teardown_supplied :
    Honours (.lax relies) KeepsSupplied teardown (fun _ _ p => p.program = none)
      fun past _ p => KeepsSupplied past p := by
  have hrelease : Honours (.lax relies) KeepsSupplied (do
      releaseAll
      update fun p => { p with program := none, phase := .empty })
      (fun _ _ p => p.program = none) fun past _ p => KeepsSupplied past p :=
    Honours.bind keepsSupplied_releaseAll fun _ => honours_update fun _ _ _ => rfl
  rw [teardown]
  refine honours_state_bind fun s => ?_
  refine Honours.mono ?_ (fun _ _ h => h.2) (fun _ _ _ h => h) (fun _ _ _ h => h)
  by_cases howned : s.owned.isEmpty = true
  · simp only [howned]
    exact hrelease
  · simp only [howned]
    exact Honours.bind (honours_tell fun _ _ h => h) fun _ => hrelease

/-- Until the end of a build there is no program. -/
theorem upheld_program_none :
    Upheld (.lax relies) fun (_ : List (Exchange Device)) p => p.program = none where
  ask _ _ := honours_perform (fun _ _ _ => trivial) (fun _ _ _ h _ => h) fun _ _ _ h _ => h
  own _ _ _ h := h
  enter _ _ _ _ h := h

/-- A **build** that comes to its end has its program, and one that does not leaves what was
supplied, or nothing. -/
theorem honours_build_supplied {vertex fragment : String} {shape : Shape} :
    Honours (.lax relies) KeepsSupplied (build vertex fragment shape)
      (fun past q p => p.program = some q ∧ p.phase = .active ∧ ComesFrom shape past q)
      fun past _ p => KeepsSupplied past p := by
  have hask : ∀ call : Device.Call, Keeps (.lax relies)
      (fun (_ : List (Exchange Device)) (p : Pipeline) => p.program = none) (Device.ask call) :=
    fun _ => honours_perform (fun _ _ _ => trivial) (fun _ _ _ h _ => h) fun _ _ _ h _ => h
  have hanew : Honours (.lax relies) (fun _ p => p.program = none)
      (buildAnew vertex fragment shape) (fun _ q p => p.program = some q ∧ p.phase = .active)
      fun past _ p => KeepsSupplied past p := by
    refine Honours.bind ((upheld_program_none.assemble_onFault
      (fun _ _ => upheld_program_none.link fun _ => hask _)
      fun _ => upheld_program_none.upload fun _ => hask _).weaken_err
        fun _ _ _ h => keepsSupplied_of_none h) fun q => ?_
    exact Honours.bind (honours_update fun _ _ _ => ⟨rfl, rfl⟩) fun _ =>
      Honours.bind (honours_tell fun _ _ h => h) fun _ => honours_pure fun _ _ h => h
  have hbuild : Honours (.lax relies) KeepsSupplied (build vertex fragment shape)
      (fun _ q p => p.program = some q ∧ p.phase = .active)
      fun past _ p => KeepsSupplied past p := by
    rw [build_eq]
    refine honours_state_bind fun p => ?_
    by_cases hphase : p.phase = .empty
    · rw [if_pos hphase]
      refine hanew.mono ?_ (fun _ _ _ h => h) fun _ _ _ h => h
      rintro past _ ⟨rfl, h⟩
      exact h.program_of_empty hphase
    · rw [if_neg hphase]
      exact Honours.bind (honours_teardown_supplied.mono (fun _ _ h => h.2) (fun _ _ _ h => h)
        fun _ _ _ h => h) fun _ => hanew
  exact (hbuild.and supplies_build (fun _ _ _ => trivial) fun _ _ h => h).weaken
    (fun _ _ _ h => ⟨h.1.1, h.1.2, h.2⟩) fun _ _ _ h => h.1

end Pipeline

end ShaderPreview
