import ShaderPreview.Proofs.Pipeline.Stacking
import ShaderPreview.Proofs.Pipeline.Supply

/-!
# What a Build Comes To

A build on a device that refuses nothing has three **checks** to pass: that the vertex shader
compiles, that the fragment shader compiles, and that the program links. What passes between the
build and the device is known call by call, from what an earlier build left to the last call: the
handles and the verdicts are the device's, and everything else is the build's.

The first check that fails decides. Its log is read while its handle is still there, then all
handles are given back, the newest first, and the build gives up with the log. Only a build that
passes all three checks comes to its end.

## Main definitions

* `Pipeline.tried`, `Pipeline.joined`, `Pipeline.loaded`, `Pipeline.fed`: what passes in one step of
  a build.
* `Pipeline.made`: what passes in a build that comes to its end.
* `Pipeline.Check`: the checks, with `Check.upTo`, what passes until one fails, and
  `Check.rejected`, what passes in the whole of a build where one fails.
* `Pipeline.Ends`: what passes in a build from nothing, with what it leaves.
* `Pipeline.Outcome`: what a build comes to, and when.

## Main results

* `Pipeline.honours_build_passed`: what passes in a build, and what it leaves.
* `Pipeline.outcome_made`, `Pipeline.outcome_rejected`: which outcomes there are.
* `Pipeline.build_outcome`: the outcome of a build, after any earlier operations.
-/

namespace ShaderPreview.Pipeline

open Procedure Contract Device

/-! ### What passes in one step -/

/-- A source is **tried** as a shader, with the verdict. -/
def tried (stage : Stage) (source : String) (shader : Handle) (compiled : Bool) :
    List (Exchange Device) := [
  ⟨.createShader stage, .ok shader⟩,
  ⟨.compileShader shader source, .ok ()⟩,
  ⟨.shaderCompiled shader, .ok compiled⟩]

/-- Two shaders are **joined** to a program, with the verdict. -/
def joined (vertexShader fragmentShader program : Handle) (linked : Bool) :
    List (Exchange Device) := [
  ⟨.createProgram, .ok program⟩,
  ⟨.attachShader program vertexShader, .ok ()⟩,
  ⟨.attachShader program fragmentShader, .ok ()⟩,
  ⟨.linkProgram program, .ok ()⟩,
  ⟨.programLinked program, .ok linked⟩]

/-- A buffer is **loaded**. -/
def loaded (buffer : Handle) (data : List UInt8) : List (Exchange Device) :=
  [⟨.createBuffer, .ok buffer⟩, ⟨.uploadBuffer buffer data, .ok ()⟩]

/-- An attribute is **fed** from a buffer, if the program has it. -/
def fed (program : Handle) (name : String) (buffer : Handle) (location : Int) :
    List (Exchange Device) :=
  ⟨.attributeLocation program name, .ok location⟩ ::
    if location = absent then []
    else [⟨.bindAttribute program location buffer components, .ok ()⟩]

/-- The **deletion** of a handle. -/
def deletion (o : Owned) : Exchange Device :=
  match o.kind with
  | .shader => ⟨.deleteShader o.handle, .ok ()⟩
  | .program => ⟨.deleteProgram o.handle, .ok ()⟩
  | .buffer => ⟨.deleteBuffer o.handle, .ok ()⟩

/-- A mesh is **put behind** a program. -/
def bound (mesh : Mesh) (q : Program) : List (Exchange Device) :=
  loaded q.positionBuffer mesh.positionBytes ++
  loaded q.normalBuffer mesh.normalBytes ++
  fed q.program positionAttribute q.positionBuffer q.positionLocation ++
  fed q.program normalAttribute q.normalBuffer q.normalLocation

/-- All that passes when a program is **made**. -/
def made (vertex fragment : String) (mesh : Mesh) (q : Program) : List (Exchange Device) :=
  tried .vertex vertex q.vertexShader true ++
  tried .fragment fragment q.fragmentShader true ++
  joined q.vertexShader q.fragmentShader q.program true ++
  bound mesh q

/-! ### The checks of a build -/

/-- What a build has to **pass**: the compiler twice, then the linker. -/
inductive Check where
  | vertex
  | fragment
  | link
  deriving DecidableEq, Repr

namespace Check

variable (vertex fragment : String) (v f g : Handle)

/-- The **fault** with which a build that fails a check gives up. -/
def fault (log : String) : Check → Fault
  | .vertex => .pipeline (.compile .vertex log none)
  | .fragment => .pipeline (.compile .fragment log none)
  | .link => .pipeline (.link log none)

/-- What passes **until a check fails**: those before it have been passed. The handles are those of
the vertex shader, the fragment shader and the program, as far as they are needed. -/
def upTo : Check → List (Exchange Device)
  | .vertex => tried .vertex vertex v false
  | .fragment => tried .vertex vertex v true ++ tried .fragment fragment f false
  | .link =>
    tried .vertex vertex v true ++ tried .fragment fragment f true ++ joined v f g false

/-- The **log** of what failed a check is read. -/
def logged (log : String) : Check → Exchange Device
  | .vertex => ⟨.shaderInfoLog v, .ok log⟩
  | .fragment => ⟨.shaderInfoLog f, .ok log⟩
  | .link => ⟨.programInfoLog g, .ok log⟩

/-- The handles that were obtained **by the time** a check fails, the newest first. -/
def owned : Check → List Owned
  | .vertex => [⟨.shader, v⟩]
  | .fragment => [⟨.shader, f⟩, ⟨.shader, v⟩]
  | .link => [⟨.program, g⟩, ⟨.shader, f⟩, ⟨.shader, v⟩]

/-- All that passes in a build that is **rejected** by a check. -/
def rejected (log : String) (check : Check) : List (Exchange Device) :=
  check.upTo vertex fragment v f g ++ [check.logged v f g log] ++
    (check.owned v f g).map deletion

/-- What a build **goes on to create** when it has passed a check. -/
def next : Check → Device.Call
  | .vertex => .createShader .fragment
  | .fragment => .createProgram
  | .link => .createBuffer

/-- A check **fails** after those before it were passed. -/
def FailsIn (passed : List (Exchange Device)) (check : Check) : Prop :=
  ∃ v f g, check.upTo vertex fragment v f g <+: passed

end Check

/-- What passes in a build **from nothing**, and what it leaves: a program is made, or a check
rejects it. -/
def Ends (vertex fragment : String) (shape : Shape) (mesh : Mesh) (passed : List (Exchange Device))
    (final : Pipeline) : Except Fault Program → Prop
  | .ok q => passed = made vertex fragment mesh q ∧
      final = { phase := .active, owned := q.owned, program := some q } ∧ q.shape = shape ∧
      q.vertexCount = mesh.vertexCount
  | .error fault => ∃ check v f g log, fault = Check.fault log check ∧
      passed = check.rejected vertex fragment v f g log ∧ final = { phase := .failed }

/-- **What a build comes to** in what passes between it and a device that refuses nothing. -/
structure Outcome (vertex fragment : String) (shape : Shape) (mesh : Mesh)
    (passed : List (Exchange Device)) (result : Except Fault Program) (final : Pipeline) :
    Prop where
  /-- The build gives up on a check where the check fails, and nowhere else. -/
  gives_up_iff : ∀ check : Check,
    (∃ log, result = .error (check.fault log)) ↔ check.FailsIn vertex fragment passed
  /-- It gives up with the log of what failed, which it reads right after the verdict. -/
  log_read : ∀ (check : Check) log, result = .error (check.fault log) →
    ∃ v f g, check.upTo vertex fragment v f g ++ [check.logged v f g log] <+: passed
  /-- Then nothing is created that comes after the check. -/
  goes_no_further : ∀ check : Check, check.FailsIn vertex fragment passed →
    ∀ x ∈ passed, x.call ≠ check.next
  /-- Otherwise the build comes to its end. -/
  returns_iff : (∃ q, result = .ok q) ↔ ∀ check : Check, ¬check.FailsIn vertex fragment passed
  /-- Where the build gives up, it has given back all that it obtained, the newest first. -/
  gives_back : ∀ fault, result = .error fault →
    final = { phase := .failed } ∧ deleted passed = (created passed).reverse
  /-- Where it comes to its end, all that it obtained are the handles of its program. -/
  keeps : ∀ q, result = .ok q →
    final = { phase := .active, owned := q.owned, program := some q } ∧
      created passed = q.owned.reverse ∧ deleted passed = [] ∧
      passed = made vertex fragment mesh q ∧ q.shape = shape ∧ q.vertexCount = mesh.vertexCount

/-! ### Handles and verdicts in what passes -/

section Readings

variable {vertex fragment : String} {mesh : Mesh} {q : Program} {v f g : Handle} {log : String}

@[simp] theorem obtained?_deletion (o : Owned) : obtained? (deletion o) = none := by
  obtain ⟨kind, handle⟩ := o
  cases kind with
  | _ => rfl

@[simp] theorem deleted?_deletion (o : Owned) : (deletion o).call.deleted? = some o := by
  obtain ⟨kind, handle⟩ := o
  cases kind with
  | _ => rfl

/-- Deletions create nothing. -/
theorem created_map_deletion (owned : List Owned) : created (owned.map deletion) = [] := by
  rw [created, List.filterMap_map]
  exact List.filterMap_eq_nil_iff.mpr fun o _ => obtained?_deletion o

/-- What deletions delete, in order. -/
theorem deleted_map_deletion (owned : List Owned) : deleted (owned.map deletion) = owned := by
  rw [deleted, List.filterMap_map]
  exact (List.filterMap_congr fun o _ => deleted?_deletion o).trans List.filterMap_some

/-- What is read off a mesh that is put behind a program is read off its two buffers, where nothing
is read off an attribute. -/
theorem filterMap_bound {α : Type} {read : Exchange Device → Option α}
    (hlocation : ∀ g name location, read ⟨.attributeLocation g name, .ok location⟩ = none)
    (hbind : ∀ g location buffer n, read ⟨.bindAttribute g location buffer n, .ok ()⟩ = none) :
    (bound mesh q).filterMap read =
      (loaded q.positionBuffer mesh.positionBytes ++
        loaded q.normalBuffer mesh.normalBytes).filterMap read := by
  have hfed : ∀ name buffer location,
      (fed q.program name buffer location).filterMap read = [] := by
    intro name buffer location
    rw [fed]
    split
    · rw [List.filterMap_cons_none (hlocation _ _ _), List.filterMap_nil]
    · rw [List.filterMap_cons_none (hlocation _ _ _), List.filterMap_cons_none (hbind _ _ _ _),
        List.filterMap_nil]
  rw [bound, List.filterMap_append, List.filterMap_append, hfed, hfed, List.append_nil,
    List.append_nil]

/-- A program that is made has all handles that were created. -/
theorem created_made : created (made vertex fragment mesh q) = q.owned.reverse := by
  rw [created, made, List.filterMap_append, filterMap_bound (fun _ _ _ => rfl) fun _ _ _ _ => rfl]
  rfl

/-- Where a program is made nothing is deleted. -/
theorem deleted_made : deleted (made vertex fragment mesh q) = [] := by
  rw [deleted, made, List.filterMap_append, filterMap_bound (fun _ _ _ => rfl) fun _ _ _ _ => rfl]
  rfl

/-- What is rejected is given back in the reverse order of its creation. -/
theorem deleted_rejected (check : Check) :
    deleted (check.rejected vertex fragment v f g log) =
      (created (check.rejected vertex fragment v f g log)).reverse := by
  have hcreated : created (check.upTo vertex fragment v f g ++ [check.logged v f g log]) =
      (check.owned v f g).reverse := by
    cases check with
    | _ => rfl
  have hdeleted : deleted (check.upTo vertex fragment v f g ++ [check.logged v f g log]) = [] := by
    cases check with
    | _ => rfl
  rw [Check.rejected, created_append, deleted_append, created_map_deletion, deleted_map_deletion,
    hcreated, hdeleted, List.append_nil, List.reverse_reverse, List.nil_append]

/-- The **verdict** that an exchange gives. -/
def verdict? : Exchange Device → Option Bool
  | ⟨.shaderCompiled _, .ok compiled⟩ => some compiled
  | ⟨.programLinked _, .ok linked⟩ => some linked
  | _ => none

/-- The **verdicts** that were given, in order. -/
def verdicts (passed : List (Exchange Device)) : List Bool := passed.filterMap verdict?

/-- The verdicts until a check **fails**. -/
def Check.verdicts : Check → List Bool
  | .vertex => [false]
  | .fragment => [true, false]
  | .link => [true, true, false]

/-- Up to a check the verdicts are those until it fails. -/
theorem verdicts_upTo (check : Check) :
    verdicts (check.upTo vertex fragment v f g) = check.verdicts := by
  cases check with
  | _ => rfl

/-- The log and the deletions after it give no verdict. -/
theorem verdicts_rejected (check : Check) :
    verdicts (check.rejected vertex fragment v f g log) = check.verdicts := by
  cases check with
  | _ => rfl

/-- For a program that is made there are three verdicts, all good. -/
theorem verdicts_made : verdicts (made vertex fragment mesh q) = [true, true, true] := by
  rw [verdicts, made, List.filterMap_append, filterMap_bound (fun _ _ _ => rfl) fun _ _ _ _ => rfl]
  rfl

/-- Where a check fails, its verdicts come first. -/
theorem Check.FailsIn.verdicts {check : Check} {passed : List (Exchange Device)}
    (h : check.FailsIn vertex fragment passed) : check.verdicts <+: Pipeline.verdicts passed := by
  obtain ⟨v, f, g, hprefix⟩ := h
  have hverdicts := hprefix.filterMap verdict?
  rwa [← Pipeline.verdicts, verdicts_upTo] at hverdicts

/-- Where a build is rejected, one check fails. -/
theorem failsIn_rejected_iff {check check' : Check} :
    check'.FailsIn vertex fragment (check.rejected vertex fragment v f g log) ↔
      check' = check := by
  constructor
  · intro h
    have hverdicts := h.verdicts
    rw [verdicts_rejected] at hverdicts
    -- no check's verdicts are the beginning of another's
    revert hverdicts
    cases check <;> cases check' <;> decide
  · rintro rfl
    exact ⟨v, f, g, (List.prefix_append _ _).trans (List.prefix_append _ _)⟩

/-- Where a program is made, none fails. -/
theorem not_failsIn_made (check : Check) :
    ¬check.FailsIn vertex fragment (made vertex fragment mesh q) := by
  intro h
  have hverdicts := h.verdicts
  rw [verdicts_made] at hverdicts
  revert hverdicts
  cases check <;> decide

end Readings

/-! ### From one point to another -/

/-- A **point** of a dialogue: this has passed, and this is the state. -/
abbrev At (past : List (Exchange Device)) (p : Pipeline) :
    List (Exchange Device) → Pipeline → Prop :=
  fun past' p' => past' = past ∧ p' = p

section Points

variable {past : List (Exchange Device)} {p : Pipeline} {vertex fragment : String} {shape : Shape}
  {mesh : Mesh} {err : List (Exchange Device) → Fault → Pipeline → Prop}

/-- A call is answered. -/
theorem passes_ask {call : Device.Call} :
    Honours (lax Answered) (At past p) (Device.ask call)
      (fun past' a p' => At (past ++ [⟨call, .ok a⟩]) p past' p') err := by
  refine honours_perform (fun _ _ _ => trivial) ?_ fun _ _ _ _ h => absurd h not_exists_error_eq_ok
  rintro _ _ a ⟨rfl, rfl⟩ -
  exact ⟨rfl, rfl⟩

/-- A change of the pipeline passes nothing. -/
theorem passes_update {change : Pipeline → Pipeline} :
    Honours (lax Answered) (At past p) (update change)
      (fun past' _ p' => At past (change p) past' p') err := by
  refine honours_update ?_
  rintro _ _ ⟨rfl, rfl⟩
  exact ⟨rfl, rfl⟩

/-- A notice passes nothing. -/
theorem passes_tell {notice : Notice} :
    Honours (lax Answered) (At past p) (tell notice) (fun past' _ p' => At past p past' p') err :=
  honours_tell fun _ _ h => h

/-- Where a shader compiles it is owned, and its trial has passed. Where it does not, its log was
read, and it is owned all the same. -/
theorem passes_compile {stage : Stage} {source : String} :
    Honours (lax Answered) (At past p) (compile stage source)
      (fun past' shader p' => At (past ++ tried stage source shader true)
        { p with owned := ⟨.shader, shader⟩ :: p.owned } past' p')
      fun past' fault p' => ∃ shader log, fault = .pipeline (.compile stage log none) ∧
        At (past ++ tried stage source shader false ++ [⟨.shaderInfoLog shader, .ok log⟩])
          { p with owned := ⟨.shader, shader⟩ :: p.owned } past' p' := by
  rw [compile]
  refine Honours.bind passes_ask fun shader => Honours.bind passes_update fun _ => ?_
  refine Honours.bind passes_ask fun _ => Honours.bind passes_ask fun compiled => ?_
  cases compiled with
  | true => exact honours_pure fun _ _ h => by simpa [tried] using h
  | false =>
    refine Honours.bind passes_ask fun log => honours_fail fun _ _ h => ⟨shader, log, rfl, ?_⟩
    simpa [tried] using h

/-- Where a program links it is owned, and the attempt has passed. Where it does not, its log was
read, and it is owned all the same. -/
theorem passes_link {vertexShader fragmentShader : Handle} :
    Honours (lax Answered) (At past p) (link vertexShader fragmentShader)
      (fun past' program p' => At (past ++ joined vertexShader fragmentShader program true)
        { p with owned := ⟨.program, program⟩ :: p.owned } past' p')
      fun past' fault p' => ∃ program log, fault = .pipeline (.link log none) ∧
        At (past ++ joined vertexShader fragmentShader program false ++
            [⟨.programInfoLog program, .ok log⟩])
          { p with owned := ⟨.program, program⟩ :: p.owned } past' p' := by
  rw [link]
  refine Honours.bind passes_ask fun program => Honours.bind passes_update fun _ => ?_
  refine Honours.bind passes_ask fun _ => Honours.bind passes_ask fun _ => ?_
  refine Honours.bind passes_ask fun _ => Honours.bind passes_ask fun linked => ?_
  cases linked with
  | true => exact honours_pure fun _ _ h => by simpa [joined] using h
  | false =>
    refine Honours.bind passes_ask fun log => honours_fail fun _ _ h => ⟨program, log, rfl, ?_⟩
    simpa [joined] using h

/-- Each upload passes the creation of a buffer and the bytes. -/
theorem passes_upload {data : List UInt8} :
    Honours (lax Answered) (At past p) (upload data)
      (fun past' buffer p' => At (past ++ loaded buffer data)
        { p with owned := ⟨.buffer, buffer⟩ :: p.owned } past' p') err := by
  rw [upload]
  refine Honours.bind passes_ask fun buffer => Honours.bind passes_update fun _ => ?_
  exact Honours.bind passes_ask fun _ => honours_pure fun _ _ h => by simpa [loaded] using h

/-- An attribute is looked up, and then bound unless it is absent. -/
theorem passes_feed {program buffer : Handle} {name : String} :
    Honours (lax Answered) (At past p) (feed program name buffer)
      (fun past' location p' => At (past ++ fed program name buffer location) p past' p') err := by
  rw [feed]
  refine Honours.bind passes_ask fun location => ?_
  by_cases hlocation : location = absent
  · rw [if_neg (by simpa using hlocation)]
    exact honours_pure fun _ _ h => by simpa [fed, hlocation] using h
  · rw [if_pos (by simpa using hlocation)]
    exact Honours.bind passes_ask fun _ => honours_pure fun _ _ h => by
      simpa [fed, hlocation] using h

/-- Behind a program the two parts of the mesh pass, the positions first, and the program has the
corners of the mesh. -/
theorem passes_bindMesh {v f g : Handle} (hmesh : Mesh.ofShape shape = .ok mesh)
    (howned : p.owned = [⟨.program, g⟩, ⟨.shader, f⟩, ⟨.shader, v⟩]) :
    Honours (lax Answered) (At past p) (bindMesh v f g shape)
      (fun past' q p' => At (past ++ bound mesh q) { p with owned := q.owned } past' p' ∧
        q.vertexShader = v ∧ q.fragmentShader = f ∧ q.program = g ∧ q.shape = shape ∧
        q.vertexCount = mesh.vertexCount) err := by
  have hcomputed : Honours (lax Answered) (At past p) (ofExcept (Mesh.ofShape shape))
      (fun past' mesh' p' => At past p past' p' ∧ mesh' = mesh) err := by
    rw [hmesh]
    exact honours_ofExcept fun _ _ h => ⟨h, rfl⟩
  rw [bindMesh]
  refine Honours.bind hcomputed fun _ => honours_given ?_
  rintro rfl
  refine Honours.bind passes_upload fun positionBuffer => ?_
  refine Honours.bind passes_upload fun normalBuffer => ?_
  refine Honours.bind passes_feed fun positionLocation => ?_
  refine Honours.bind passes_feed fun normalLocation => ?_
  refine honours_pure fun past' p' h => ⟨?_, rfl, rfl, rfl, rfl, rfl⟩
  rw [howned] at h
  simpa [bound, Program.owned] using h

/-- The steps of a build make a program, or a check fails and leaves what was obtained by then. -/
theorem passes_assemble (hmesh : Mesh.ofShape shape = .ok mesh) :
    Honours (lax Answered) (At past {}) (assemble vertex fragment shape)
      (fun past' q p' =>
        At (past ++ made vertex fragment mesh q) { phase := .bound, owned := q.owned } past' p' ∧
          q.shape = shape ∧ q.vertexCount = mesh.vertexCount)
      fun past' fault p' => ∃ check v f g log, fault = Check.fault log check ∧
        At (past ++ (check.upTo vertex fragment v f g ++ [check.logged v f g log]))
          { phase := .compiling, owned := check.owned v f g } past' p' := by
  rw [assemble]
  refine Honours.bind passes_update fun _ => ?_
  -- where a check fails, the handles that were not obtained yet may be any number
  refine Honours.bind (passes_compile.weaken_err ?_) fun v => ?_
  · rintro past' fault p' ⟨v, log, hfault, h⟩
    refine ⟨.vertex, v, 0, 0, log, hfault, ?_⟩
    simpa [Check.upTo, Check.logged, Check.owned] using h
  refine Honours.bind (passes_compile.weaken_err ?_) fun f => ?_
  · rintro past' fault p' ⟨f, log, hfault, h⟩
    refine ⟨.fragment, v, f, 0, log, hfault, ?_⟩
    simpa [Check.upTo, Check.logged, Check.owned] using h
  refine Honours.bind (passes_link.weaken_err ?_) fun g => ?_
  · rintro past' fault p' ⟨g, log, hfault, h⟩
    refine ⟨.link, v, f, g, log, hfault, ?_⟩
    simpa [Check.upTo, Check.logged, Check.owned] using h
  refine Honours.bind passes_update fun _ => ?_
  refine Honours.bind (passes_bindMesh hmesh rfl) fun q => honours_given ?_
  rintro ⟨rfl, rfl, rfl, hshape, hcount⟩
  refine Honours.bind passes_update fun _ => honours_pure fun _ _ h => ⟨?_, hshape, hcount⟩
  simpa [made] using h

/-! #### Releasing -/

/-- One deletion passes. -/
theorem passes_delete {o : Owned} :
    Honours (lax Answered) (At past p) (delete o)
      (fun past' _ p' => At (past ++ [deletion o]) p past' p') err := by
  obtain ⟨kind, handle⟩ := o
  cases kind with
  | shader => exact passes_ask
  | program => exact passes_ask
  | buffer => exact passes_ask

/-- One deletion passes for each handle, in their order. The induction is on the handles. -/
theorem passes_releaseEach {owned : List Owned} :
    Honours (lax Answered) (At past { p with owned }) (releaseEach owned)
      (fun past' _ p' => At (past ++ owned.map deletion) { p with owned := [] } past' p') err := by
  induction owned generalizing past with
  | nil => exact honours_pure fun _ _ h => by simpa using h
  | cons o rest ih =>
    refine Honours.bind passes_update fun _ => Honours.bind passes_delete fun _ => ?_
    refine ih.weaken_ok fun _ _ _ h => ?_
    simpa using h

/-- All that is owned is given back, the newest first. -/
theorem passes_releaseAll :
    Honours (lax Answered) (At past p) releaseAll
      (fun past' _ p' => At (past ++ p.owned.map deletion) { p with owned := [] } past' p')
      err := by
  refine honours_state_bind fun s => ?_
  rintro past' _ ⟨rfl, rfl, rfl⟩
  exact passes_releaseEach _ _ ⟨rfl, rfl⟩

/-- A teardown passes the deletions of all that is owned, and leaves a new pipeline. -/
theorem passes_teardown :
    Honours (lax Answered) (At past p) teardown
      (fun past' _ p' => At (past ++ p.owned.map deletion) {} past' p') err := by
  have hrelease : Honours (lax Answered) (At past p) (do
      releaseAll
      update fun p => { p with program := none, phase := .empty })
      (fun past' _ p' => At (past ++ p.owned.map deletion) {} past' p') err :=
    Honours.bind passes_releaseAll fun _ => passes_update
  rw [teardown]
  refine honours_state_bind fun s => ?_
  refine Honours.mono ?_ (fun _ _ h => h.2) (fun _ _ _ h => h) (fun _ _ _ h => h)
  by_cases howned : s.owned.isEmpty = true
  · simp only [howned]
    exact hrelease
  · simp only [howned]
    exact Honours.bind passes_tell fun _ => hrelease

/-! #### The whole build -/

/-- What a build from nothing passes is what passes at one of its ends. -/
theorem passes_buildAnew (hmesh : Mesh.ofShape shape = .ok mesh) :
    Honours (lax Answered) (At past {}) (buildAnew vertex fragment shape)
      (fun past' q p' => ∃ passed, past' = past ++ passed ∧
        Ends vertex fragment shape mesh passed p' (.ok q))
      fun past' fault p' => ∃ passed, past' = past ++ passed ∧
        Ends vertex fragment shape mesh passed p' (.error fault) := by
  refine Honours.bind ((passes_assemble hmesh).onFault fun fault => ?_) fun q =>
    honours_given ?_
  · rintro past' p' ⟨check, v, f, g, log, rfl, h⟩
    refine Honours.bind passes_releaseAll (fun _ => honours_update fun past' p' h => ?_) past' p' h
    obtain ⟨rfl, rfl⟩ := h
    exact ⟨_, List.append_assoc _ _ _, check, v, f, g, log, rfl, rfl, rfl⟩
  · rintro ⟨hshape, hcount⟩
    refine Honours.bind passes_update fun _ => Honours.bind passes_tell fun _ => ?_
    refine honours_pure fun past' p' h => ?_
    obtain ⟨rfl, rfl⟩ := h
    exact ⟨_, rfl, rfl, rfl, hshape, hcount⟩

/-- **A build** gives back what an earlier one left, and then starts from nothing. -/
theorem honours_build_passed (hmesh : Mesh.ofShape shape = .ok mesh) (hp : Tidy p) :
    Honours (lax Answered) (At past p) (build vertex fragment shape)
      (fun past' q p' => ∃ passed, past' = past ++ p.owned.map deletion ++ passed ∧
        Ends vertex fragment shape mesh passed p' (.ok q))
      fun past' fault p' => ∃ passed, past' = past ++ p.owned.map deletion ++ passed ∧
        Ends vertex fragment shape mesh passed p' (.error fault) := by
  rw [build_eq]
  refine honours_state_bind fun s => ?_
  rintro past _ ⟨rfl, rfl, rfl⟩
  split
  case isTrue hphase =>
    obtain rfl := hp hphase
    rw [List.map_nil, List.append_nil]
    exact passes_buildAnew hmesh past {} ⟨rfl, rfl⟩
  case isFalse =>
    exact Honours.bind passes_teardown (fun _ => passes_buildAnew hmesh) past _ ⟨rfl, rfl⟩

end Points

/-! ### The outcome -/

section Outcomes

variable {vertex fragment : String} {shape : Shape} {mesh : Mesh} {passed : List (Exchange Device)}
  {result : Except Fault Program} {final : Pipeline}

/-- A fault tells which check failed, and the log. -/
theorem Check.fault_inj {check check' : Check} {log log' : String}
    (h : check.fault log = check'.fault log') : check = check' ∧ log = log' := by
  cases check <;> cases check' <;> simp_all [Check.fault]

/-- Where a check rejects a build, nothing is created that comes after it. -/
theorem ne_next_of_mem_rejected {check : Check} {v f g : Handle} {log : String}
    {x : Exchange Device} (hx : x ∈ check.rejected vertex fragment v f g log) :
    x.call ≠ check.next := by
  revert x
  cases check with
  | _ =>
    simp [Check.rejected, Check.upTo, Check.logged, Check.owned, Check.next, tried, joined,
      deletion]

/-- Where **a program is made**, no check has failed, and the build owns the program's handles. -/
theorem outcome_made (q : Program) (hcount : q.vertexCount = mesh.vertexCount) :
    Outcome vertex fragment q.shape mesh (made vertex fragment mesh q) (.ok q)
      { phase := .active, owned := q.owned, program := some q } where
  gives_up_iff check := iff_of_false nofun (not_failsIn_made check)
  log_read := nofun
  goes_no_further check h := absurd h (not_failsIn_made check)
  returns_iff := iff_of_true ⟨q, rfl⟩ not_failsIn_made
  gives_back := nofun
  keeps := by
    rintro q ⟨⟩
    exact ⟨rfl, created_made, deleted_made, rfl, rfl, hcount⟩

/-- Where **a check rejects** the build, it is the one that failed, and all is given back. -/
theorem outcome_rejected (check : Check) (v f g : Handle) (log : String) :
    Outcome vertex fragment shape mesh (check.rejected vertex fragment v f g log)
      (.error (check.fault log)) { phase := .failed } where
  gives_up_iff check' := by
    rw [failsIn_rejected_iff]
    constructor
    · rintro ⟨log', h⟩
      exact (Check.fault_inj (Except.error.inj h)).1.symm
    · rintro rfl
      exact ⟨log, rfl⟩
  log_read := by
    intro check' log' h
    obtain ⟨rfl, rfl⟩ := Check.fault_inj (Except.error.inj h)
    exact ⟨v, f, g, List.prefix_append _ _⟩
  goes_no_further := by
    intro check' h x hx
    obtain rfl := failsIn_rejected_iff.mp h
    exact ne_next_of_mem_rejected hx
  returns_iff := iff_of_false not_exists_error_eq_ok fun h =>
    h check (failsIn_rejected_iff.mpr rfl)
  gives_back _ _ := ⟨rfl, deleted_rejected check⟩
  keeps q h := absurd ⟨q, h⟩ not_exists_error_eq_ok

/-- At each of its ends a build has its outcome. -/
theorem Ends.outcome (h : Ends vertex fragment shape mesh passed final result) :
    Outcome vertex fragment shape mesh passed result final := by
  cases result with
  | ok q =>
    obtain ⟨rfl, rfl, rfl, hcount⟩ := h
    exact outcome_made q hcount
  | error fault =>
    obtain ⟨check, v, f, g, log, rfl, rfl, rfl⟩ := h
    exact outcome_rejected check v f g log

/-- Whatever was done and however it was answered, a pipeline in the empty phase has nothing. -/
theorem tidy_of_path {ops : List Operation} {moments : List (Moment Device Pipeline)}
    {results : Except Fault (List (Except Fault Unit))} {p : Pipeline}
    (hpath : Dialogue.Path (attemptAll (ops.map Operation.carryOut) {}) moments results p) :
    Tidy p := by
  -- the contract on what is held keeps no account of the program, and the one on supply none of
  -- what is owned
  have hstacked : Keeps holding Stacked (attemptAll (ops.map Operation.carryOut)) :=
    keeps_attemptAll (List.forall_mem_map.mpr fun op _ => keeps_stacked_carryOut op)
  have hsupplied : Keeps (lax fun _ _ => True) KeepsSupplied
      (attemptAll (ops.map Operation.carryOut)) := by
    refine keeps_attemptAll (List.forall_mem_map.mpr fun op _ => ?_)
    cases op with
    | build vertex fragment shape =>
      refine Honours.bind (honours_build_supplied.weaken_ok ?_) fun _ => honours_pure fun _ _ h => h
      rintro past q p ⟨hprogram, hphase, -, hq⟩
      refine ⟨fun hempty => ?_, fun q' hq' => ?_⟩
      · rw [hphase] at hempty
        cases hempty
      · obtain rfl := Option.some.inj (hprogram.symm.trans hq')
        exact hq
    | teardown => exact honours_teardown_supplied.weaken_ok fun _ _ _ => keepsSupplied_of_none
  have hnew : KeepsSupplied [] {} := keepsSupplied_of_none rfl
  obtain ⟨-, howned⟩ := hstacked.path_end stacked_nil hpath fun _ _ _ _ => trivial
  obtain ⟨-, hprogram⟩ := hsupplied.path_end hnew hpath fun _ _ _ _ => trivial
  intro hphase
  calc p = ⟨p.phase, p.owned, p.program⟩ := rfl
    _ = {} := by
      rw [hphase, howned.owned_of_empty hphase, hprogram.program_of_empty hphase]

/-- **What a build comes to**, on a device that refuses nothing, after any earlier builds and
teardowns, however these were answered. First it gives back what an earlier build left. From there
on the verdicts decide: the first check that fails makes the build give up with the log, go no
further, and give back all that it obtained, in the reverse order; and where none fails, it returns
a program, of which it owns the five handles. -/
theorem build_outcome {ops : List Operation} {before moments : List (Moment Device Pipeline)}
    {results : Except Fault (List (Except Fault Unit))} {p : Pipeline}
    (hbefore : Dialogue.Path (attemptAll (ops.map Operation.carryOut) {}) before results p)
    (hmesh : Mesh.ofShape shape = .ok mesh)
    (hbuild : Dialogue.Path (build vertex fragment shape p) moments result final)
    (hanswered : ∀ m ∈ moments, ∃ a, m.reply = .ok a) :
    ∃ passed, moments.map Moment.exchange = p.owned.map deletion ++ passed ∧
      Outcome vertex fragment shape mesh passed result final := by
  have hrelied : (lax Answered : Contract Device Pipeline).Relied [] moments := by
    rintro earlier m later rfl
    exact hanswered m (List.mem_append_right earlier List.mem_cons_self)
  have hpasses : Honours (lax Answered) (At [] p) (build vertex fragment shape) _ _ :=
    honours_build_passed hmesh (tidy_of_path hbefore)
  obtain ⟨-, hend⟩ := (hpasses [] p ⟨rfl, rfl⟩).path hbuild hrelied
  rcases result with fault | q
  · obtain ⟨passed, hpassed, hends⟩ := hend
    exact ⟨passed, hpassed, hends.outcome⟩
  · obtain ⟨passed, hpassed, hends⟩ := hend
    exact ⟨passed, hpassed, hends.outcome⟩

/-- A device that obliges, but whose linker **finds a mismatch** in every program. -/
def mismatches : Provider Device Handle where
  answer last call :=
    match call with
    | .programLinked _ => (.ok false, last)
    | .programInfoLog _ => (.ok "varying mismatch", last)
    | call => (obliging fun _ => false).answer last call

/-- That device answers each call. -/
theorem answered_mismatches (last : Handle) (call : Device.Call) :
    ∃ a, (mismatches.answer last call).1 = .ok a := by
  cases call with
  | _ => exact ⟨_, rfl⟩

/-- A program is built, and is then built once more on a device whose linker finds a mismatch. -/
theorem build_outcome_mismatch :
    let first := (attemptAll ([.build "" "" .cube].map Operation.carryOut) {}).run
      (obliging fun _ => false) 0
    let second := (build "" "" .cube first.state).run mismatches first.provider
    second.result = .error (.pipeline (.link "varying mismatch" none)) ∧
      ∃ passed, second.moments.map Moment.exchange = first.state.owned.map deletion ++ passed ∧
        Check.link.FailsIn "" "" passed ∧ second.state = { phase := .failed } ∧
        deleted passed = [⟨.program, 13⟩, ⟨.shader, 12⟩, ⟨.shader, 11⟩] := by
  intro first second
  have hresult : second.result = .error (.pipeline (.link "varying mismatch" none)) := by decide
  have hcreated : created (second.moments.map Moment.exchange) =
      [⟨.shader, 11⟩, ⟨.shader, 12⟩, ⟨.program, 13⟩] := by decide
  have hanswered : ∀ m ∈ second.moments, ∃ a, m.reply = .ok a := by
    intro m hm
    obtain ⟨last, hanswer⟩ := Dialogue.exists_answer_of_mem_run hm
    obtain ⟨a, ha⟩ := answered_mismatches last m.call
    exact ⟨a, hanswer.symm.trans ha⟩
  obtain ⟨mesh, hmesh⟩ : ∃ mesh, Mesh.ofShape .cube = .ok mesh := ⟨_, rfl⟩
  obtain ⟨passed, hpassed, houtcome⟩ :=
    build_outcome (Dialogue.path_run _ _ _) hmesh (Dialogue.path_run _ _ _) hanswered
  obtain ⟨hfinal, hdeleted⟩ := houtcome.gives_back _ hresult
  refine ⟨hresult, passed, hpassed, (houtcome.gives_up_iff .link).mp ⟨_, hresult⟩, hfinal, ?_⟩
  rw [hpassed, created_append, created_map_deletion, List.nil_append] at hcreated
  rw [hdeleted, hcreated]
  rfl

end Outcomes

end ShaderPreview.Pipeline
