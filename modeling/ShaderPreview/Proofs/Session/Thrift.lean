import ShaderPreview.Proofs.Gl.Coverage
import ShaderPreview.Proofs.Session.Filling

/-!
# A Session Keeps Only What It Shows

A session that shows nothing owns nothing: whatever ends the showing of a program gives its handles
back, and a build that fails gives back what it obtained. Only a deletion that is refused can leave
something behind, so on a device that yields a session is **thrifty** between operations: it owns
handles only while its pipeline is active.

## Main definitions

* `Session.Thrifty`: handles are owned only in the active phase.

## Main results

* `Session.keeps_thrifty_start`: a start leaves a session thrifty, however it ends.
* `Session.keeps_dealt_carryOut`: an operation deals with a device as the device relies on, and it
  leaves the session thrifty.
-/

namespace ShaderPreview.Session

open Procedure Device Contract

variable {relies : List (Exchange Device) → Exchange Device → Prop} {α : Type}

/-- A session that owns handles **only while it is active**. -/
structure Thrifty (past : List (Exchange Device)) (s : Session) : Prop where
  coherent : Coherent past s
  owned_eq_nil : s.status ≠ .active → s.pipeline.owned = []

/-- A thrifty session that shows nothing has no live handle. -/
theorem Thrifty.live_eq_nil {past : List (Exchange Device)} {s : Session} (h : Thrifty past s)
    (hs : s.status ≠ .active) : live past = [] := by
  rw [h.coherent.kept.stands.live_eq, h.owned_eq_nil hs, List.reverse_nil]

/-- A new session is thrifty. -/
theorem thrifty_nil : Thrifty [] {} := ⟨coherent_nil, fun _ => rfl⟩

/-- A cleared session is thrifty. -/
theorem Cleared.thrifty {past : List (Exchange Device)} {s : Session} (hs : Cleared s)
    (h : Coherent past s) : Thrifty past s :=
  ⟨h, fun _ => by rw [hs.2]⟩

/-- What the scheduler does while it keeps to what is shown leaves a session thrifty. -/
theorem keeps_thrifty_onScheduler {p : DeviceProcedure Scheduler α}
    (hp : ∀ owned shown, Keeps (Scheduler.conduct relies owned shown)
      (Scheduler.Kept owned shown) p) :
    Keeps (safety relies) Thrifty (onScheduler p) := by
  rintro past w ⟨hco, howned⟩
  refine (honours_onScheduler (hp _ _)).weaken ?_ ?_ past w ⟨rfl, hco.kept⟩
  · rintro past _ s ⟨q, rfl, hkept⟩
    exact ⟨⟨hkept, hco.tidy⟩, howned⟩
  · rintro past fault s ⟨q, rfl, hkept⟩
    exact ⟨⟨hkept, hco.tidy⟩, howned⟩

/-- Stopping comes to its end where nothing that is taken back is refused. -/
theorem honours_stop_clears (hclear : ¬ClearingRefusable relies)
    {err : List (Exchange Device) → Fault → Session → Prop} :
    Honours (safety relies) Thrifty stop (fun past _ s => Coherent past s ∧ Cleared s) err := by
  intro past s h
  refine honours_stop.weaken (fun _ _ _ h => ⟨h.1, h.2.1⟩) ?_ past s ⟨h.coherent, rfl⟩
  exact fun _ _ _ h => absurd h.2 hclear

/-- A cleared session builds, or nothing is left. -/
theorem honours_build_thrifty {vertex fragment : String} {shape : Shape} (hnew : GivesNew relies)
    (hclear : ¬ClearingRefusable relies) :
    Honours (safety relies) (fun past s => Coherent past s ∧ Cleared s)
      (onPipeline (Pipeline.build vertex fragment shape))
      (fun past p s => ∃ n, Built n p past s) (fun past _ s => Thrifty past s) := by
  have hbuild : ∀ n, Honours (safety relies)
      (fun past s => Coherent past s ∧ Cleared s ∧ frameRefusals past = n)
      (onPipeline (Pipeline.build vertex fragment shape)) (fun past p s => ∃ n, Built n p past s)
      (fun past _ s => Thrifty past s) := by
    intro n
    refine (honours_onPipeline_build hnew).weaken (fun _ _ _ h => ⟨n, h⟩) ?_
    rintro past fault s ⟨hco, ⟨-, hpipeline, -⟩ | hrefusable⟩
    · exact ⟨hco, fun _ => by rw [hpipeline]⟩
    · exact absurd (.inl hrefusable) hclear
  rintro past s ⟨hco, hcleared⟩
  exact hbuild (frameRefusals past) past s ⟨hco, hcleared, rfl⟩

/-- A session that has built its program is active, whether its frames begin or not. -/
theorem honours_run_thrifty {n : Nat} {p : Program} :
    Honours (safety relies) (Built n p) (onScheduler (Scheduler.start p))
      (fun past _ s => Thrifty past s) (fun past _ s => Thrifty past s) := by
  rintro past ⟨sources, pipeline, q⟩ ⟨hidle, hpipeline, hkept, hn⟩
  obtain rfl : pipeline = { phase := .active, owned := p.owned, program := some p } := hpipeline
  refine (honours_onScheduler (Scheduler.honours_start hidle)).weaken ?_ ?_ past _
    ⟨rfl, rfl, hkept, hn⟩
  · rintro past' _ s ⟨q', rfl, -, -, -, hkept, -⟩
    exact ⟨⟨hkept, nofun⟩, fun h => absurd rfl h⟩
  · rintro past' fault s ⟨q', rfl, -, hkept, -⟩
    exact ⟨⟨hkept, nofun⟩, fun h => absurd rfl h⟩

/-- A **start** leaves a session thrifty, however it ends. -/
theorem keeps_thrifty_start {settings : RenderSettings} {bundle : String} (hnew : GivesNew relies)
    (hclear : ¬ClearingRefusable relies) :
    Keeps (safety relies) Thrifty (start settings bundle) := by
  have hask : Keeps (safety relies) Thrifty (Device.ask .isAvailable) := by
    have hkeep : ∀ past s reply, Thrifty past s → Thrifty (past ++ [⟨.isAvailable, reply⟩]) s :=
      fun past s reply h =>
        ⟨⟨h.coherent.kept.keep rfl fun _ => rfl, h.coherent.tidy⟩, h.owned_eq_nil⟩
    refine honours_perform (fun past s h => ⟨nofun, shown_of_kept h.coherent.kept⟩)
      (fun past s _ h _ => hkeep past s _ h) fun past s _ h _ => hkeep past s _ h
  have hsources : ∀ past (s : Session) sources, Thrifty past s →
      Thrifty past { s with sources } := fun past s sources h =>
    ⟨⟨h.coherent.kept, h.coherent.tidy⟩, h.owned_eq_nil⟩
  refine honours_start_parts hask hsources (fun _ _ h => h) (honours_stop_clears hclear)
    (honours_build_thrifty hnew hclear) fun p => ?_
  rintro past s ⟨n, h⟩
  exact honours_run_thrifty past s h

/-- An operation leaves a session thrifty, however it ends, where nothing that is taken back is
refused. -/
theorem keeps_thrifty_carryOut {settings : RenderSettings} (hnew : GivesNew relies)
    (hclear : ¬ClearingRefusable relies) (op : Operation) :
    Keeps (safety relies) Thrifty (op.carryOut settings) := by
  cases op with
  | start bundle => exact keeps_thrifty_start hnew hclear
  | stop =>
    exact (honours_stop_clears hclear).weaken_ok fun _ _ _ h => h.2.thrifty h.1
  | refresh =>
    exact Honours.bind (keeps_thrifty_onScheduler fun _ _ => Scheduler.keeps_refresh) fun _ =>
      honours_pure fun _ _ h => h
  | renderFrame => exact keeps_thrifty_onScheduler fun _ _ => Scheduler.keeps_renderFrame

/-! ### On a device that yields -/

/-- On a device that yields everything can be cleared. -/
theorem not_clearingRefusable_yields : ¬ClearingRefusable Yields := by
  rintro (⟨past, call, fault, hdeleted, -, htakes⟩ | ⟨past, token, fault, -, htakes⟩)
  · obtain ⟨o, ho⟩ := Option.isSome_iff_exists.mp hdeleted
    exact absurd (htakes (takesBack_of_deleted? ho)) not_exists_error_eq_ok
  · exact absurd (htakes rfl) not_exists_error_eq_ok

/-- A thrifty session that filled **only what it created**. -/
def Dealt (past : List (Exchange Device)) (s : Session) : Prop :=
  Thrifty past s ∧ FillsCreated past s

/-- An operation deals with a device as the device relies on, and leaves the session thrifty. -/
theorem keeps_dealt_carryOut {settings : RenderSettings} (op : Operation) :
    Keeps dealing Dealt (op.carryOut settings) :=
  ((keeps_thrifty_carryOut givesNew_yields not_clearingRefusable_yields op).both
    (fillsOnce_carryOut givesNew_yields op)).recontract (fun _ _ h => ⟨h, h⟩)
    fun _ _ _ h => ⟨h.1.1, h.2⟩

/-- A refresh deals with a device as the device relies on. -/
theorem keeps_dealt_refresh {settings : RenderSettings} :
    Keeps dealing Dealt (refresh settings) := by
  have hthrifty : Keeps (safety Yields) Thrifty (refresh settings) :=
    keeps_thrifty_onScheduler fun _ _ => Scheduler.keeps_refresh
  have hfills : FillsOnce Yields (refresh settings) :=
    fillsOnce_onScheduler Scheduler.confined_refresh
  exact (hthrifty.both hfills).recontract (fun _ _ h => ⟨h, h⟩) fun _ _ _ h => ⟨h.1.1, h.2⟩

/-- Stopping deals with a device as the device relies on, and comes to its end. No callback is left
then. -/
theorem honours_stop_dealing :
    Honours dealing Dealt stop (fun _ _ s => s.scheduler.frames.entries = [])
      fun _ _ _ => False := by
  have hstop : Honours (safety Yields) Thrifty stop (fun past _ s => Coherent past s ∧ Cleared s)
      fun _ _ _ => False := honours_stop_clears not_clearingRefusable_yields
  have hfills : FillsOnce Yields stop := fillsOnce_stop
  have hboth : Honours dealing Dealt stop
      (fun past _ s => (Coherent past s ∧ Cleared s) ∧ FillsCreated past s)
      fun past _ s => False ∧ FillsCreated past s :=
    (hstop.both hfills).recontract (fun _ _ h => ⟨h, h⟩) fun _ _ _ h => ⟨h.1.1, h.2⟩
  refine hboth.weaken ?_ fun _ _ _ h => h.1
  rintro past _ s ⟨⟨hco, hcleared⟩, -⟩
  rw [hco.kept.entries_eq, hcleared.1.2.2]
  rfl

/-- A new session has dealt with nothing. -/
theorem dealt_nil : Dealt [] {} := ⟨thrifty_nil, nofun⟩

end ShaderPreview.Session
