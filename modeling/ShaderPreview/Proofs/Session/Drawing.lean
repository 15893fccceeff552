import ShaderPreview.Proofs.Frame.Upkeep
import ShaderPreview.Proofs.Pipeline.Supply
import ShaderPreview.Proofs.Session.Safety

/-!
# What a Session Draws

A draw names a program and a number of corners, and the device reads as many entries from the
program's two buffers. The scheduler takes both from the program that it was given. As long as that
is the pipeline's own, the buffers hold what is read: the scheduler has a program only while the
pipeline has it, and the pipeline has one only while it is supplied. Nothing is asked of the device
for that. It may refuse any call and give out handles as it likes.

## Main definitions

* `Session.drawing`: the contract to draw nothing but the program that is shown, within what its
  buffers hold.
* `Session.Furnished`: the scheduler's program is the pipeline's, and the pipeline's is supplied.

## Main results

* `Session.keeps_furnished_carryOut`: an operation leaves a session furnished, however it ends.
* `Session.draws_within_supply`: no draw reads beyond what was uploaded.
-/

namespace ShaderPreview.Session

open Procedure Device

variable {α : Type} {past : List (Exchange Device)} {s w : Session} {settings : RenderSettings}
  {bundle : String}

/-! ### The contract -/

/-- A session draws **nothing but the program that is shown**, all its corners, and only where both
of its buffers are supplied with them. -/
def drawing : Contract Device Session where
  relies _ _ := True
  guarantees past s call := ∀ program vertices, call = .drawTriangles program vertices →
    ∃ p : Program, s.program = some p ∧ s.scheduler.program = some p ∧ program = p.program ∧
      vertices = p.vertexCount ∧ p.SuppliedIn past

/-- A session is **furnished** when its scheduler has no other program than its pipeline, and the
pipeline's is supplied. -/
structure Furnished (past : List (Exchange Device)) (s : Session) : Prop where
  shown : ∀ p, s.scheduler.program = some p → s.program = some p
  supplied : Pipeline.KeepsSupplied past s.pipeline

/-- A call that has nothing to do with buffers leaves a session furnished. -/
theorem Furnished.keep {x : Exchange Device} (h : Furnished past s) (hx : x.call.supplies = false) :
    Furnished (past ++ [x]) s :=
  ⟨h.shown, h.supplied.keep hx⟩

/-- A session without a program is furnished. -/
theorem furnished_of_none (hscheduler : s.scheduler.program = none)
    (hpipeline : s.pipeline.program = none) : Furnished past s := by
  refine ⟨fun p hp => ?_, Pipeline.keepsSupplied_of_none hpipeline⟩
  rw [hscheduler] at hp
  cases hp

/-- A call that neither draws nor has to do with buffers leaves a session furnished. -/
theorem furnished_ask {call : Device.Call} (hdraw : ∀ program n, call ≠ .drawTriangles program n)
    (hsupply : call.supplies = false) : Keeps drawing Furnished (Device.ask call) :=
  honours_perform (fun _ _ _ program n h => absurd h (hdraw program n))
    (fun _ _ _ h _ => h.keep hsupply) fun _ _ _ h _ => h.keep hsupply

/-! ### The scheduler -/

/-- The contract and the condition of a session **as its scheduler sees them**. -/
abbrev drawingFrom (w : Session) : Contract Device Scheduler :=
  drawing.under fun q => { w with scheduler := q }

/-- See `drawingFrom`. -/
abbrev FurnishedFrom (w : Session) (past : List (Exchange Device)) (q : Scheduler) : Prop :=
  Furnished past { w with scheduler := q }

/-- What prepares a frame does not draw. -/
theorem not_draws_of_preparesFrame {call : Device.Call} (h : call.preparesFrame = true)
    (program : Handle) (n : Int) : call ≠ .drawTriangles program n := by
  rintro rfl
  cases h

/-- What prepares a frame has nothing to do with buffers. -/
theorem supplies_of_preparesFrame {call : Device.Call} (h : call.preparesFrame = true) :
    call.supplies = false := by
  cases call <;> first | rfl | cases h

/-- Preparing a frame leaves a session furnished. -/
theorem upheld_furnished (w : Session) : Scheduler.Upheld (drawingFrom w) (FurnishedFrom w) where
  allowed _ _ _ hcall _ program n h := absurd h (not_draws_of_preparesFrame hcall program n)
  step _ _ _ hx _ h := h.keep (supplies_of_preparesFrame hx)
  time _ _ _ h := ⟨h.shown, h.supplied⟩

/-- The program of a furnished session may be drawn. -/
theorem draws_furnished (w : Session) :
    Scheduler.DrawsUnder (drawingFrom w) (FurnishedFrom w) := by
  intro p
  refine honours_perform ?_ (fun _ _ _ h _ => h.1.keep rfl) fun _ _ _ h _ => h.1.keep rfl
  rintro past q ⟨h, hp⟩ program vertices hcall
  obtain ⟨rfl, rfl⟩ := Device.Call.drawTriangles.inj hcall
  have hshown := h.shown p hp
  exact ⟨p, hshown, hp, rfl, rfl, h.supplied.supplied p hshown⟩

/-- Taking back the callback leaves a session furnished. -/
theorem furnished_cancelFrames (w : Session) :
    Keeps (drawingFrom w) (FurnishedFrom w) Scheduler.cancelFrames := by
  refine Scheduler.keeps_cancelFrames (fun token => ?_) fun _ _ _ _ h => ⟨h.shown, h.supplied⟩
  exact honours_perform (fun _ _ _ _ _ h => by cases h) (fun _ _ _ h _ => h.keep rfl)
    fun _ _ _ h _ => h.keep rfl

/-- Stopping the frames takes the program from the scheduler. -/
theorem honours_stop_furnished (w : Session) :
    Honours (drawingFrom w) (FurnishedFrom w) Scheduler.stop
      (fun past _ q => FurnishedFrom w past q ∧ q.program = none)
      fun past _ q => FurnishedFrom w past q :=
  Honours.bind (furnished_cancelFrames w) fun _ => honours_update fun _ _ h =>
    ⟨⟨fun _ hp => absurd hp (Option.some_ne_none _).symm, h.supplied⟩, rfl⟩

/-- Starting the frames of the pipeline's program leaves a session furnished. -/
theorem furnished_start {p : Program} (hp : w.program = some p) :
    Keeps (drawingFrom w) (FurnishedFrom w) (Scheduler.start p) := by
  have hrequest : Keeps (drawingFrom w) (FurnishedFrom w) Scheduler.requestFrames := by
    refine Scheduler.keeps_requestFrames ?_ fun _ _ _ _ h => ⟨h.shown, h.supplied⟩
    exact honours_perform (fun _ _ _ _ _ h => by cases h) (fun _ _ _ h _ => h.keep rfl)
      fun _ _ _ h _ => h.keep rfl
  refine (upheld_furnished w).start ?_ hrequest fun _ _ _ h => h
  refine (honours_stop_furnished w).weaken_ok fun past _ q h => ⟨fun p' hp' => ?_, h.1.supplied⟩
  rw [← Option.some.inj hp']
  exact hp

/-- What leaves a session furnished as the scheduler sees it does so for the session. -/
theorem honours_onScheduler_furnished {p : DeviceProcedure Scheduler α}
    {ok : List (Exchange Device) → α → Session → Prop}
    (hp : Honours (drawingFrom w) (FurnishedFrom w) p
      (fun past a q => ok past a { w with scheduler := q })
      fun past _ q => FurnishedFrom w past q) :
    Honours drawing (fun past s => s = w ∧ Furnished past s) (onScheduler p) ok
      fun past _ s => Furnished past s := by
  rintro past _ ⟨rfl, h⟩
  exact Honours.zoom hp (fun _ h => h) past _ ⟨rfl, h⟩

/-! ### The pipeline -/

/-- A session whose scheduler **has no program**. -/
def Unused (past : List (Exchange Device)) (s : Session) : Prop :=
  Furnished past s ∧ s.scheduler.program = none

/-- What the pipeline keeps supplied the session keeps furnished, while the scheduler has no
program. -/
theorem honours_onPipeline_furnished {p : DeviceProcedure Pipeline α}
    {ok : List (Exchange Device) → α → Pipeline → Prop}
    (hconfined : ConfinedTo .pipeline p)
    (hp : Honours (.lax fun _ _ => True) Pipeline.KeepsSupplied p ok
      fun past _ p => Pipeline.KeepsSupplied past p) :
    Honours drawing Unused (onPipeline p)
      (fun past a s => ok past a s.pipeline ∧ s.scheduler.program = none)
      fun past _ s => Furnished past s := by
  have hpart : ∀ w : Session, Honours (drawing.under fun pipeline => { w with pipeline })
      (fun past p => Pipeline.KeepsSupplied past p ∧ w.scheduler.program = none) p
      (fun past a p => ok past a p ∧ w.scheduler.program = none)
      fun past _ pipeline => Furnished past { w with pipeline } := by
    intro w
    refine honours_given fun hnone => ?_
    have hallowed : Honours (drawing.under fun pipeline => { w with pipeline })
        Pipeline.KeepsSupplied p ok fun past _ p => Pipeline.KeepsSupplied past p := by
      refine hconfined.honours hp ?_
      rintro past s call hpart program vertices rfl
      cases hpart
    refine hallowed.weaken (fun _ _ _ h => ⟨h, hnone⟩) fun _ _ _ h => ⟨fun p hp => ?_, h⟩
    rw [hnone] at hp
    cases hp
  exact Honours.zoom_of_forall hpart fun _ _ h => ⟨h.1.supplied, h.2⟩

/-! ### One operation -/

/-- Stopping leaves no program anywhere, or a furnished session. -/
theorem honours_stop_unused :
    Honours drawing Furnished stop (fun past _ s => Unused past s)
      fun past _ s => Furnished past s := by
  have hframes : Honours drawing Furnished (onScheduler Scheduler.stop)
      (fun past _ s => Unused past s) fun past _ s => Furnished past s := fun past w h =>
    honours_onScheduler_furnished (honours_stop_furnished w) past w ⟨rfl, h⟩
  refine Honours.bind hframes fun _ => ?_
  exact (honours_onPipeline_furnished Pipeline.confined_teardown
    Pipeline.honours_teardown_supplied).weaken_ok fun _ _ _ h =>
      ⟨furnished_of_none h.2 h.1, h.2⟩

/-- A start leaves a session furnished, however it ends. -/
theorem keeps_furnished_start : Keeps drawing Furnished (start settings bundle) := by
  have hbuild : ∀ {vertex fragment shape}, Honours drawing Unused
      (onPipeline (Pipeline.build vertex fragment shape))
      (fun past p s => s.program = some p ∧ Furnished past s) fun past _ s => Furnished past s := by
    intro vertex fragment shape
    refine (honours_onPipeline_furnished Pipeline.confined_build
      Pipeline.honours_build_supplied).weaken_ok ?_
    rintro past p s ⟨⟨hprogram, hphase, -, hsupplied⟩, hnone⟩
    refine ⟨hprogram, fun p' hp' => ?_, fun hempty => ?_, fun p' hp' => ?_⟩
    · rw [hnone] at hp'
      cases hp'
    · rw [hphase] at hempty
      cases hempty
    · rw [hprogram] at hp'
      exact Option.some.inj hp' ▸ hsupplied
  exact honours_start_parts (furnished_ask (by simp) rfl) (fun _ _ _ h => ⟨h.shown, h.supplied⟩)
    (fun _ _ h => h) honours_stop_unused hbuild fun p past w h =>
      honours_onScheduler_furnished (furnished_start h.1) past w ⟨rfl, h.2⟩

/-- **An operation** leaves a session furnished, however it ends. -/
theorem keeps_furnished_carryOut (op : Operation) :
    Keeps drawing Furnished (op.carryOut settings) := by
  have hframe : ∀ {α : Type} {p : DeviceProcedure Scheduler α},
      (∀ w, Keeps (drawingFrom w) (FurnishedFrom w) p) → Keeps drawing Furnished (onScheduler p) :=
    fun hp past w h => honours_onScheduler_furnished (hp w) past w ⟨rfl, h⟩
  cases op with
  | start bundle => exact keeps_furnished_start
  | stop => exact honours_stop_unused.weaken_ok fun _ _ _ h => h.1
  | refresh =>
    exact Honours.bind (hframe fun w => (upheld_furnished w).refresh (draws_furnished w)) fun _ =>
      honours_pure fun _ _ h => h
  | renderFrame => exact hframe fun w => (upheld_furnished w).renderFrame (draws_furnished w)

/-! ### One operation after another -/

/-- **No draw reads beyond what was uploaded.** Over any operations of a session, and whatever the
device does, each draw is of the program that is shown and that the scheduler has, with all its
corners. These make whole triangles, and each of the two buffers received one upload since it was
created, of twelve bytes to a corner. The same is true of each program that a build gives, of any
shape that has a mesh and whatever the pipeline held before: it has as many corners as the mesh. -/
theorem draws_within_supply {ops : List Operation} {moments : List (Moment Device Session)}
    {results : Except Fault (List (Except Fault Unit))} {s : Session}
    (hpath : Dialogue.Path (attemptAll (ops.map (Operation.carryOut settings)) {}) moments
      results s) :
    (∀ before m after program (vertices : Int), moments = before ++ m :: after →
      m.call = .drawTriangles program vertices →
        ∃ p : Program, m.state.program = some p ∧ m.state.scheduler.program = some p ∧
          program = p.program ∧ vertices = p.vertexCount ∧
            p.SuppliedIn (before.map Moment.exchange)) ∧
      ∀ vertex fragment shape pipeline moments q pipeline',
        Dialogue.Path (Pipeline.build vertex fragment shape pipeline) moments (.ok q) pipeline' →
          (∃ mesh, Mesh.ofShape shape = .ok mesh ∧ q.vertexCount = mesh.vertexCount) ∧
            q.SuppliedIn (moments.map Moment.exchange) := by
  have hall : Keeps drawing Furnished (attemptAll (ops.map (Operation.carryOut settings))) :=
    keeps_attemptAll (List.forall_mem_map.mpr fun op _ => keeps_furnished_carryOut op)
  have hstart : Furnished [] {} := furnished_of_none rfl rfl
  obtain ⟨hcalls, -⟩ := hall.path_end hstart hpath fun _ _ _ _ => trivial
  refine ⟨fun before m after program vertices he hm => hcalls before m after he _ _ hm, ?_⟩
  intro vertex fragment shape pipeline moments q pipeline' hbuild
  have hsupplies : Pipeline.Supplies (fun _ _ => True) (fun _ => True)
      (Pipeline.build vertex fragment shape) (Pipeline.ComesFrom shape) :=
    Pipeline.supplies_build
  exact ((hsupplies [] pipeline trivial).path hbuild fun _ _ _ _ => trivial).2

/-- On a device that obliges, a frame of the bare bundle **draws the thirty-six corners of a cube**
out of two buffers that hold as many. A build of the cube gives such a program. -/
theorem draws_within_supply_cube :
    let run := (attemptAll ([.start bareBundle, .renderFrame].map (Operation.carryOut {})) {}).run
      (obliging fun _ => false) 0
    let built := (Pipeline.build "" "" .cube {}).run (obliging fun _ => false) 0
    (∃ before m after, run.moments = before ++ m :: after ∧ m.call = .drawTriangles 3 36 ∧
      ∃ p : Program, m.state.program = some p ∧ p.program = 3 ∧ p.vertexCount = 36 ∧
        p.SuppliedIn (before.map Moment.exchange)) ∧
    ∃ q, built.result = .ok q ∧ q.vertexCount = 36 ∧
      q.SuppliedIn (built.moments.map Moment.exchange) := by
  intro run built
  obtain ⟨hdraws, hbuilds⟩ := draws_within_supply (Dialogue.path_run (obliging fun _ => false)
    (attemptAll ([.start bareBundle, .renderFrame].map (Operation.carryOut {})) {}) 0)
  constructor
  · have hdrawn : .drawTriangles 3 36 ∈ run.moments.map (·.call) := by decide +kernel
    obtain ⟨m, hm, hcall⟩ := List.mem_map.mp hdrawn
    obtain ⟨before, after, hsplit⟩ := List.append_of_mem hm
    obtain ⟨p, hp, -, hprogram, hcount, hsupplied⟩ := hdraws before m after 3 36 hsplit hcall
    exact ⟨before, m, after, hsplit, hcall, p, hp, hprogram.symm, by omega, hsupplied⟩
  · have hok : built.result.isOk = true := by decide +kernel
    obtain ⟨q, hq⟩ : ∃ q, built.result = .ok q := by
      rcases hresult : built.result with fault | q
      · rw [hresult] at hok
        cases hok
      · exact ⟨q, rfl⟩
    have hbuild : Dialogue.Path (Pipeline.build "" "" .cube {}) built.moments (.ok q)
        built.state :=
      hq ▸ Dialogue.path_run (obliging fun _ => false) (Pipeline.build "" "" .cube {}) 0
    obtain ⟨⟨mesh, hmesh, hcount⟩, hsupplied⟩ := hbuilds _ _ _ _ _ _ _ hbuild
    refine ⟨q, hq, hcount.trans ?_, hsupplied⟩
    rw [← Except.ok.inj hmesh]
    rfl

end ShaderPreview.Session
