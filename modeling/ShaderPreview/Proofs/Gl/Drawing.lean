import ShaderPreview.Platform.Simulated
import ShaderPreview.Proofs.Gl.Plan

/-!
# Draws Over a Plan

A vertex array is made from the plan of its time, and a later draw renders the same array. So over
any course of calls a draw is **over the plan**, as if the array were made for it, or it is
**stale**: since the draw that made the array, a call changed the plan and left the array as it was,
and the plan is not that of the array now. No draw is both.

Whether the objects of the plan are still there is another question. As long as the context spares
releases and buffers, none of them was released, and neither was the array.

## Main definitions

* `GlDevice.Operation`, `GlDevice.Turn`, `GlDevice.Course`: calls of a device one after another.
* `GlDevice.LastMade`: the plan that the array of a program was last made over.
* `GlDevice.OverPlan`, `GlDevice.Stale`: the two kinds of draws.

## Main results

* `GlDevice.Turn.makes_or_keeps`: what a turn makes of an array and the plan behind it.
* `GlDevice.Course.traced`: over any course an array was made from the plan, unless that was
  disturbed.
* `GlDevice.Course.inStock`: over any course without refusals the ledger tallies.
* `GlDevice.OverPlan.not_stale`: no draw is both.
* `GlDevice.draw_over_plan_or_stale`: over any course a draw is over the plan, or it is stale.
* `GlDevice.draw_over_released_buffer`: a draw after an upload that is stale.
-/

namespace ShaderPreview.GlDevice

open Procedure Contract Platform

/-! ### One call after another -/

/-- What can be **asked of a device** from outside. -/
inductive Operation where
  | ask (call : Device.Call)
  | release

/-- Carries out an operation. -/
def Operation.carryOut : Operation → GlProcedure Unit
  | .ask call => do
    let _ ← perform call
    return ()
  | .release => GlDevice.release

/-- An **operation with what came of it**. -/
structure Turn where
  before : GlDevice
  operation : Operation
  moments : List (Moment Platform GlDevice)
  result : Except Fault Unit
  after : GlDevice

/-- What passed in a turn. -/
def Turn.exchanges (t : Turn) : List (Exchange Platform) := t.moments.map Moment.exchange

/-- The **course** of a device: operations one after another, each with what came of it. -/
inductive Course (start : GlDevice) : List Turn → GlDevice → Prop
  | nil : Course start [] start
  | turn {turns : List Turn} {t : Turn} (h : Course start turns t.before)
      (hpath : Dialogue.Path (t.operation.carryOut t.before) t.moments t.result t.after) :
      Course start (turns ++ [t]) t.after

/-- What **passed over some turns**. -/
def exchanges (turns : List Turn) : List (Exchange Platform) := turns.flatMap Turn.exchanges

/-- What passed over some turns and then over others. -/
theorem exchanges_append {turns turns' : List Turn} :
    exchanges (turns ++ turns') = exchanges turns ++ exchanges turns' :=
  List.flatMap_append

/-- One more turn adds what passed in it. -/
theorem exchanges_append_singleton {turns : List Turn} {t : Turn} :
    exchanges (turns ++ [t]) = exchanges turns ++ t.exchanges := by
  rw [exchanges_append, exchanges, exchanges, List.flatMap_singleton]

/-- A turn **carries out a device call**, with the given answer. -/
def Turn.Answers (t : Turn) (x : Exchange Device) : Prop :=
  t.operation = .ask x.call ∧ t.result = x.reply.map fun _ => ()

variable {d d' start : GlDevice} {handle : Handle} {turns : List Turn} {t : Turn}

/-- A turn moves the tables, or it is a release and empties them. -/
theorem Turn.moves_or_empties
    (hpath : Dialogue.Path (t.operation.carryOut t.before) t.moments t.result t.after) :
    (∃ x, t.Answers x ∧ Moves t.before x t.after) ∨
      t.operation = .release ∧ Empties t.before t.after := by
  obtain ⟨before, op, moments, result, after⟩ := t
  have hrelied : (lax fun _ _ => True : Contract Platform GlDevice).Relied [] moments :=
    fun _ _ _ _ => trivial
  cases op with
  | ask call =>
    refine .inl ?_
    have hmoves : Honours free (Is before) (Operation.carryOut (.ask call))
        (fun _ _ s => ∃ a, Moves before ⟨call, .ok a⟩ s)
        (fun _ fault s => Moves before ⟨call, .error fault⟩ s) :=
      Honours.bind (honours_perform_moves call) fun a => honours_pure fun _ _ h => ⟨a, h⟩
    have hend := ((hmoves [] before rfl).path hpath hrelied).2
    rcases result with fault | _
    · exact ⟨⟨call, .error fault⟩, ⟨rfl, rfl⟩, hend⟩
    · obtain ⟨a, hend⟩ := hend
      exact ⟨⟨call, .ok a⟩, ⟨rfl, rfl⟩, hend⟩
  | release =>
    have hempties : Honours free (Is before) GlDevice.release (fun _ _ s => Empties before s)
        fun _ _ s => Empties before s := honours_release_empties.weaken_ok fun _ _ _ h => h.1
    exact .inr ⟨rfl, (hempties.path_end rfl hpath hrelied).2⟩

/-! ### The arrays of a course -/

/-- A turn **makes the vertex array** of a program, over its plan. -/
structure Turn.Makes (t : Turn) (handle : Handle) (plan : VertexPlan) (number : Nat) : Prop where
  draws : ∃ vertices, t.operation = .ask (.drawTriangles handle vertices)
  plan_eq : t.before.plan handle = .ok plan
  exchange_mem : ⟨plan.request, .ok number⟩ ∈ t.exchanges

/-- A turn **disturbs** a program: it changes the plan and leaves the vertex array. -/
def Turn.Disturbs (t : Turn) (handle : Handle) : Prop :=
  t.after.plan handle ≠ t.before.plan handle ∧ ∃ x, t.Answers x ∧ Disturbing t.before handle x

/-- The way of a draw in a turn. -/
theorem Turn.drawPath {vertices : Int}
    (hpath : Dialogue.Path (t.operation.carryOut t.before) t.moments t.result t.after)
    (hdraw : t.operation = .ask (.drawTriangles handle vertices)) :
    DrawPath t.before handle vertices t.moments t.result t.after := by
  rw [hdraw] at hpath
  have hsame : Operation.carryOut (.ask (.drawTriangles handle vertices)) =
      drawTriangles handle vertices := bind_pure' _
  rw [hsame] at hpath
  exact path_drawTriangles hpath

/-- An array that is there **after a turn** was made in it, over what is the plan still; or it was
there before, no other was made, and the plan is the same or was disturbed. -/
theorem Turn.makes_or_keeps {p' : GlProgram} {number : Nat} (hd : t.before.Numbered)
    (hpath : Dialogue.Path (t.operation.carryOut t.before) t.moments t.result t.after)
    (hp' : t.after.programs.find? handle = some p') (harray : p'.vertexArray = some number) :
    (∃ plan, t.Makes handle plan number ∧ t.after.plan handle = .ok plan) ∨
      ∃ p, t.before.programs.find? handle = some p ∧ p.vertexArray = some number ∧
        (∀ plan number', ¬t.Makes handle plan number') ∧
        ∀ plan, t.before.plan handle = .ok plan →
          t.after.plan handle = .ok plan ∨ t.Disturbs handle := by
  rcases Turn.moves_or_empties hpath with ⟨x, hx, hmoves⟩ | ⟨hrelease, hempties⟩
  · by_cases hdraw : ∃ vertices, x.call = .drawTriangles handle vertices
    · obtain ⟨vertices, hdraw⟩ := hdraw
      have hop : t.operation = .ask (.drawTriangles handle vertices) := hdraw ▸ hx.1
      rcases (Turn.drawPath hpath hop).made_or_eq hp' harray with
        ⟨plan, hplan, hplan', hmem⟩ | ⟨hsame, hnot⟩
      · exact .inl ⟨plan, ⟨⟨vertices, hop⟩, hplan, hmem⟩, hplan'⟩
      · rw [hsame] at hp' ⊢
        exact .inr ⟨p', hp', harray, fun _ _ hmakes => hnot _ _ hmakes.exchange_mem,
          fun plan hplan => .inl hplan⟩
    · refine .inr ?_
      obtain ⟨p, hp, hthere, hplan⟩ := hmoves.plan_or_disturbing hd hp' harray fun n hn =>
        hdraw ⟨n, hn⟩
      refine ⟨p, hp, hthere, fun _ _ hmakes => ?_, fun plan hbefore => ?_⟩
      · obtain ⟨vertices, hop⟩ := hmakes.draws
        exact hdraw ⟨vertices, Operation.ask.inj (hx.1.symm.trans hop)⟩
      · by_cases hsame : t.after.plan handle = t.before.plan handle
        · exact .inl (hsame.trans hbefore)
        · exact (hplan plan hbefore).imp_right fun hdisturbing => ⟨hsame, x, hx, hdisturbing⟩
  · have hthere := hempties.programs_within handle p' hp'
    obtain ⟨hbuffers, hcontext⟩ := hempties.whole handle p' hp'
    refine .inr ⟨p', hthere, harray, fun _ _ hmakes => ?_, fun plan hplan => .inl ?_⟩
    · obtain ⟨vertices, hop⟩ := hmakes.draws
      rw [hrelease] at hop
      cases hop
    rw [← hplan]
    exact plan_congr hthere hp' rfl rfl rfl (fun _ _ => by rw [hbuffers]) hcontext

/-- The vertex array of a program was **last made** over a plan, before the given turns: in none of
them was another one made. -/
def LastMade (turns since : List Turn) (handle : Handle) (plan : VertexPlan) (number : Nat) :
    Prop :=
  ∃ first maker, turns = first ++ maker :: since ∧ maker.Makes handle plan number ∧
    ∀ t ∈ since, ∀ plan' number', ¬t.Makes handle plan' number'

/-- The vertex array of a program was last made over one plan only. -/
theorem LastMade.plan_unique {since since' : List Turn} {plan plan' : VertexPlan}
    {number number' : Nat} (h : LastMade turns since handle plan number)
    (h' : LastMade turns since' handle plan' number') : plan = plan' := by
  obtain ⟨first, maker, rfl, hmakes, hnone⟩ := h
  obtain ⟨first', maker', heq, hmakes', hnone'⟩ := h'
  -- of two different makers the earlier one would have the later one after it
  rcases List.append_eq_append_iff.mp heq with ⟨_ | ⟨t, gap⟩, -, hsince⟩ | ⟨_ | ⟨t, gap⟩, -, hsince⟩
  · obtain ⟨rfl, -⟩ := List.cons.inj hsince
    exact Except.ok.inj (hmakes.plan_eq.symm.trans hmakes'.plan_eq)
  · obtain ⟨-, rfl⟩ := List.cons.inj hsince
    exact absurd hmakes' (hnone maker' (by simp) _ _)
  · obtain ⟨rfl, -⟩ := List.cons.inj hsince
    exact Except.ok.inj (hmakes.plan_eq.symm.trans hmakes'.plan_eq)
  · obtain ⟨-, rfl⟩ := List.cons.inj hsince
    exact absurd hmakes (hnone' maker (by simp) _ _)

/-- A vertex array was **made over a course**, from what is the plan still unless it was disturbed
since. -/
def MadeIn (turns : List Turn) (d : GlDevice) (handle : Handle) (number : Nat) : Prop :=
  ∃ since plan, LastMade turns since handle plan number ∧
    (d.plan handle = .ok plan ∨ ∃ t ∈ since, t.Disturbs handle)

/-- What was made earlier is still made, from the plan or from one that was disturbed. -/
theorem MadeIn.append {number : Nat} (h : MadeIn turns t.before handle number)
    (hnone : ∀ plan number', ¬t.Makes handle plan number')
    (hplan : ∀ plan, t.before.plan handle = .ok plan →
      t.after.plan handle = .ok plan ∨ t.Disturbs handle) :
    MadeIn (turns ++ [t]) t.after handle number := by
  obtain ⟨since, plan, ⟨first, maker, rfl, hmakes, hlast⟩, hsince⟩ := h
  refine ⟨since ++ [t], plan, ⟨first, maker, by rw [List.append_assoc, List.cons_append], hmakes,
    List.forall_mem_append.mpr ⟨hlast, List.forall_mem_singleton.mpr hnone⟩⟩, ?_⟩
  rcases hsince with hsame | ⟨t', ht', hdisturbs⟩
  · exact (hplan plan hsame).imp_right fun hdisturbs =>
      ⟨t, List.mem_append_right _ (List.mem_singleton_self t), hdisturbs⟩
  · exact .inr ⟨t', List.mem_append_left _ ht', hdisturbs⟩

/-- Handles to come are free, and each vertex array that is there **was made**. -/
structure Traced (turns : List Turn) (d : GlDevice) : Prop where
  numbered : d.Numbered
  made : ∀ {handle p number}, d.programs.find? handle = some p → p.vertexArray = some number →
    MadeIn turns d handle number

/-- A turn keeps track of the vertex arrays. -/
theorem Traced.advance (h : Traced turns t.before)
    (hpath : Dialogue.Path (t.operation.carryOut t.before) t.moments t.result t.after) :
    Traced (turns ++ [t]) t.after := by
  refine ⟨?_, fun hp' harray => ?_⟩
  · rcases Turn.moves_or_empties hpath with ⟨x, -, hmoves⟩ | ⟨-, hempties⟩
    · exact hmoves.numbered h.numbered
    · exact hempties.numbered h.numbered
  · rcases Turn.makes_or_keeps h.numbered hpath hp' harray with
      ⟨plan, hmakes, hplan⟩ | ⟨p, hp, hthere, hnone, hplan⟩
    · exact ⟨[], plan, ⟨turns, t, rfl, hmakes, List.forall_mem_nil _⟩, .inl hplan⟩
    · exact (h.made hp hthere).append hnone hplan

/-- A new device has nothing to keep track of. -/
theorem traced_onContext {info : ContextInfo} {glslVersion : Option Int} {view : Option ViewSize} :
    Traced [] (onContext info glslVersion view) :=
  ⟨fun _ _ => ⟨rfl, rfl⟩, fun hp => nomatch hp⟩

/-- **Over any course** each vertex array was made from the plan, unless that was disturbed. -/
theorem Course.traced (h : Course start turns d) (hstart : Traced [] start) : Traced turns d := by
  induction h with
  | nil => exact hstart
  | turn _ hpath ih => exact ih.advance hpath

/-! ### What is still there -/

/-- A turn **spoils** a buffer: an upload fails where there was something in the buffer. -/
def Turn.Spoils (t : Turn) : Prop :=
  ∃ handle data fault, t.operation = .ask (.uploadBuffer handle data) ∧
    t.before.storage (.data handle) ≠ none ∧ t.result = .error fault

/-- A turn **displaces** an object: a link puts another one in the place of what an earlier link
gave. -/
def Turn.Displaces (t : Turn) (o : GpuObject) : Prop :=
  ∃ handle, t.operation = .ask (.linkProgram handle) ∧
    t.before.storage (.linked handle) = some o ∧ t.after.storage (.linked handle) ≠ some o

/-- A call that loses what it replaces displaces just that. -/
theorem Turn.mem_replaced_iff {call : Device.Call} {lost : List GpuObject}
    {past : List (Exchange Platform)} {o : GpuObject} (hop : t.operation = .ask call)
    (h : InStock (lost ++ t.before.replaced call) past t.after) :
    o ∈ t.before.replaced call ↔ t.Displaces o := by
  constructor
  · intro ho
    cases call with
    | linkProgram handle =>
      exact ⟨handle, hop, Option.mem_toList.mp ho, fun hafter =>
        h.tally.notMem_lost hafter (List.mem_append_right _ ho)⟩
    | _ => exact absurd ho List.not_mem_nil
  · rintro ⟨handle, hlink, hbefore, -⟩
    cases hop.symm.trans hlink
    exact Option.mem_toList.mpr hbefore

/-- A device call as an operation leaves the device in stock, or spoilt by an upload. -/
theorem honours_carryOut_ask {lost : List GpuObject} (hd : d.Numbered) (call : Device.Call) :
    Honours (lax Spares) (Stocked lost d.storage d) (Operation.carryOut (.ask call))
      (fun past _ s => InStock lost past s ∧ d.Retains call s ∨
        InStock (lost ++ d.replaced call) past s)
      (fun past _ s => (InStock lost past s ∧ d.Retains call s ∧ d.GivesUpNothing call ∨
        ∃ handle data, call = .uploadBuffer handle data ∧ Spoilt d handle past s) ∧
          call.takesBack = false) :=
  Honours.bind (honours_perform hd call) fun _ => honours_pure fun _ _ h => h

/-- A turn leaves a device in stock, and loses what it displaces; or it spoils a buffer. -/
theorem Turn.inStock_or_spoilt {lost : List GpuObject} {past : List (Exchange Platform)}
    (hd : t.before.Numbered) (hstock : InStock lost past t.before)
    (hpath : Dialogue.Path (t.operation.carryOut t.before) t.moments t.result t.after)
    (horderly : Orderly (past ++ t.exchanges)) :
    (∃ lost', InStock lost' (past ++ t.exchanges) t.after ∧ ¬t.Spoils ∧
        ∀ o, o ∈ lost' ↔ o ∈ lost ∨ t.Displaces o) ∨
      t.Spoils ∧ ∃ handle, Spoilt t.before handle (past ++ t.exchanges) t.after := by
  have hrelied : (lax Spares : Contract Platform GlDevice).Relied past t.moments :=
    Orderly.relied horderly
  cases hop : t.operation with
  | ask call =>
    have hretains : t.before.Retains call t.after → ∀ o, ¬t.Displaces o := by
      rintro hretains o ⟨handle, hlink, hbefore, hafter⟩
      cases hop.symm.trans hlink
      rw [hretains handle rfl] at hafter
      exact hafter hbefore
    rw [hop] at hpath
    have hend := ((honours_carryOut_ask hd call past t.before hstock).path hpath hrelied).2
    cases hresult : t.result with
    | ok _ =>
      rw [hresult] at hend
      have hspoils : ¬t.Spoils := by
        rintro ⟨_, _, fault, -, -, hfault⟩
        cases hresult.symm.trans hfault
      rcases hend with ⟨h, hkeep⟩ | h
      · exact .inl ⟨lost, h, hspoils, fun o =>
          (or_iff_left (hretains hkeep o)).symm⟩
      · refine .inl ⟨_, h, hspoils, fun o => ?_⟩
        rw [List.mem_append, Turn.mem_replaced_iff hop h]
    | error fault =>
      rw [hresult] at hend
      rcases hend with ⟨⟨h, hkeep, hnothing⟩ | ⟨handle, data, hupload, hspoilt⟩, -⟩
      · refine .inl ⟨lost, h, ?_, fun o => (or_iff_left (hretains hkeep o)).symm⟩
        rintro ⟨handle, data, _, hupload, hfull, -⟩
        exact hfull (hnothing handle data (Operation.ask.inj (hop.symm.trans hupload)))
      · obtain ⟨o, ho, -⟩ := hspoilt.released
        refine .inr ⟨⟨handle, data, fault, hupload ▸ hop, ?_, hresult⟩, handle, hspoilt⟩
        rw [ho]
        exact Option.some_ne_none o
  | release =>
    rw [hop] at hpath
    have hrelease : Honours (lax Spares) (Stocked lost t.before.storage t.before) GlDevice.release
        (fun past _ s => InStock lost past s) (fun past _ s => InStock lost past s) :=
      honours_release.weaken_ok fun _ _ _ h => h.1
    refine .inl ⟨lost, (hrelease.path_end hstock hpath hrelied).2, ?_, fun o => ?_⟩
    · rintro ⟨_, _, _, hupload, -⟩
      cases hop.symm.trans hupload
    · refine (or_iff_left ?_).symm
      rintro ⟨_, hlink, -⟩
      cases hop.symm.trans hlink

/-- Which objects a device has **lost over a course**: those that a turn displaced. -/
def LostIn (turns : List Turn) (lost : List GpuObject) : Prop :=
  ∀ o, o ∈ lost ↔ ∃ t ∈ turns, t.Displaces o

/-- Over any course on an orderly context the device is in stock, unless a turn spoilt it. -/
theorem Course.inStock_or_spoilt (h : Course start turns d) (hstart : Traced [] start)
    (hstock : InStock [] [] start) (horderly : Orderly (exchanges turns)) :
    (∃ lost, InStock lost (exchanges turns) d ∧ (∀ t ∈ turns, ¬t.Spoils) ∧ LostIn turns lost) ∨
      ∃ first t since handle, turns = first ++ t :: since ∧ t.Spoils ∧
        Spoilt t.before handle (exchanges (first ++ [t])) t.after := by
  induction h with
  | nil => exact .inl ⟨[], hstock, List.forall_mem_nil _, fun o => by simp⟩
  | @turn turns t hcourse hpath ih =>
    rw [exchanges_append_singleton] at horderly
    rcases ih horderly.left with
      ⟨lost, hbefore, hspoils, hlost⟩ | ⟨first, t', since, handle, hturns, h⟩
    · rcases Turn.inStock_or_spoilt (hcourse.traced hstart).numbered hbefore hpath horderly with
        ⟨lost', hafter, hnot, hlost'⟩ | ⟨hspoil, handle, hspoilt⟩
      · refine .inl ⟨lost', exchanges_append_singleton ▸ hafter, ?_, fun o => ?_⟩
        · exact List.forall_mem_append.mpr ⟨hspoils, List.forall_mem_singleton.mpr hnot⟩
        · simp only [hlost' o, hlost o, List.mem_append, List.mem_singleton, or_and_right,
            exists_or, exists_eq_left]
      · exact .inr ⟨turns, t, [], handle, rfl, hspoil, exchanges_append_singleton ▸ hspoilt⟩
    · refine .inr ⟨first, t', since ++ [t], handle, ?_, h⟩
      rw [hturns, List.append_assoc, List.cons_append]

/-- Over a course that spoils nothing the device is in stock. -/
theorem Course.inStock_of_unspoilt (h : Course start turns d) (hstart : Traced [] start)
    (hstock : InStock [] [] start) (horderly : Orderly (exchanges turns))
    (hspoils : ∀ t ∈ turns, ¬t.Spoils) :
    ∃ lost, InStock lost (exchanges turns) d ∧ LostIn turns lost := by
  rcases h.inStock_or_spoilt hstart hstock horderly with
    ⟨lost, hstock', -, hlost⟩ | ⟨first, t, since, handle, rfl, hspoilt, -⟩
  · exact ⟨lost, hstock', hlost⟩
  · exact absurd hspoilt (hspoils t (List.mem_append_right _ (.head _)))

/-- **Over any course** without such refusals the device is in stock. -/
theorem Course.inStock (h : Course start turns d) (hstart : Traced [] start)
    (hstock : InStock [] [] start) (hspared : Spared (exchanges turns)) :
    ∃ lost, InStock lost (exchanges turns) d := by
  rcases h.inStock_or_spoilt hstart hstock hspared.orderly with
    ⟨lost, hstock', -⟩ | ⟨first, t, since, handle, rfl, -, hspoilt⟩
  · exact ⟨lost, hstock'⟩
  · obtain ⟨data, fault, hrefused⟩ := hspoilt.refused
    rw [List.append_cons, exchanges_append] at hspared
    exact absurd (hspared.left.answered _ hrefused (.inr ⟨data, rfl⟩)) not_exists_error_eq_ok

/-! ### Draws -/

/-- A draw **over the plan**, with what passed in it and its result: the plan is at fault; the
context refuses a vertex array over the plan; or such an array is rendered, whether it was made for
the draw or is the last that was made. -/
inductive OverPlan (turns : List Turn) (d : GlDevice) (handle : Handle)
    (vertices : Int) : List (Exchange Platform) → Except Fault Unit → Prop
  | planless (fault : Fault) (hplan : d.plan handle = .error fault) :
      OverPlan turns d handle vertices [] (.error fault)
  | unmade (plan : VertexPlan) (hplan : d.plan handle = .ok plan) (fault : Fault) :
      OverPlan turns d handle vertices [⟨plan.request, .error fault⟩] (.error fault)
  | made (plan : VertexPlan) (hplan : d.plan handle = .ok plan) (number : Nat)
      (reply : Except Fault Unit) :
      OverPlan turns d handle vertices
        [⟨plan.request, .ok number⟩, ⟨.render number vertices, reply⟩] reply
  | kept (plan : VertexPlan) (hplan : d.plan handle = .ok plan) (number : Nat) (since : List Turn)
      (hmade : LastMade turns since handle plan number) (reply : Except Fault Unit) :
      OverPlan turns d handle vertices [⟨.render number vertices, reply⟩] reply

/-- A **stale** draw: the array that was last made is rendered, but the plan that it was made over
is not the plan now, since the program was disturbed. -/
def Stale (turns : List Turn) (d : GlDevice) (handle : Handle) (vertices : Int)
    (now : List (Exchange Platform)) (result : Except Fault Unit) : Prop :=
  ∃ since plan number, LastMade turns since handle plan number ∧ d.plan handle ≠ .ok plan ∧
    (∃ t ∈ since, t.Disturbs handle) ∧ now = [⟨.render number vertices, result⟩]

/-- **No draw is both** over the plan and stale. -/
theorem OverPlan.not_stale {vertices : Int} {now : List (Exchange Platform)}
    {result : Except Fault Unit} (h : OverPlan turns d handle vertices now result) :
    ¬Stale turns d handle vertices now result := by
  rintro ⟨since, plan, number, hlast, hplan, -, hnow⟩
  cases h with
  | planless => cases hnow
  | unmade => cases hnow
  | made => cases hnow
  | kept plan' hplan' number' since' hmade =>
    obtain rfl := hmade.plan_unique hlast
    exact hplan hplan'

/-- A draw is over the plan unless the array was made over another. -/
theorem Traced.over_plan_or_stale {vertices : Int} {moments : List (Moment Platform GlDevice)}
    {result : Except Fault Unit} (h : Traced turns d)
    (hway : DrawPath d handle vertices moments result d') :
    OverPlan turns d handle vertices (moments.map Moment.exchange) result ∨
      Stale turns d handle vertices (moments.map Moment.exchange) result := by
  cases hway with
  | kept p hp number harray reply =>
    obtain ⟨since, plan, hlast, hplan⟩ := h.made hp harray
    by_cases hsame : d.plan handle = .ok plan
    · exact .inl (.kept plan hsame number since hlast _)
    · exact .inr ⟨since, plan, number, hlast, hsame, hplan.resolve_left hsame, rfl⟩
  | planless fault hplan => exact .inl (.planless fault hplan)
  | unmade plan hplan fault => exact .inl (.unmade plan hplan fault)
  | made p hp hnone plan hplan number d' hd' reply => exact .inl (.made plan hplan number _)

/-- The array that a draw renders was not released. -/
theorem DrawPath.notMem_released {vertices : Int} {moments : List (Moment Platform GlDevice)}
    {result : Except Fault Unit} {lost : List GpuObject} {past : List (Exchange Platform)}
    (hway : DrawPath d handle vertices moments result d') (hstock : InStock lost past d)
    (hspared : Spared (past ++ moments.map Moment.exchange)) {m : Moment Platform GlDevice}
    (hm : m ∈ moments) {number : Nat} {n : Int} (hcall : m.call = .render number n) :
    .vertexArray number ∉ released past := by
  cases hway with
  | kept p hp number' harray reply =>
    obtain rfl := List.mem_singleton.mp hm
    cases hcall
    have hplace : d.storage (.array handle) = some (.vertexArray number) := by
      simp only [storage, hp, Option.bind_some, harray, Option.map_some]
    exact hstock.tally.notMem_released hplace
  | planless => exact absurd hm List.not_mem_nil
  | unmade plan =>
    obtain rfl := List.mem_singleton.mp hm
    cases hcall
  | made p hp hnone plan hplan number' d' hd' reply =>
    have hnew : GpuObject.vertexArray number' ∉ obtained past := by
      have hfresh := hspared.relied [] _ _ rfl
      rw [List.map_nil, List.append_nil] at hfresh
      exact hfresh.1 _ rfl
    rcases List.mem_cons.mp hm with rfl | hm
    · cases hcall
    · obtain rfl := List.mem_singleton.mp hm
      cases hcall
      exact fun h => hnew (hstock.tally.released_subset h)

/-- **A draw is over the plan, or it is stale**, and not both, over any course of a new device and
whatever the context does. As long as no release and no buffer was refused, no object of the plan
was released, and neither was the array that is rendered. -/
theorem draw_over_plan_or_stale {info : ContextInfo} {glslVersion : Option Int}
    {view : Option ViewSize} {vertices : Int} {moments : List (Moment Platform GlDevice)}
    {result : Except Fault Unit}
    (hcourse : Course (onContext info glslVersion view) turns d)
    (hpath : Dialogue.Path (drawTriangles handle vertices d) moments result d') :
    (OverPlan turns d handle vertices (moments.map Moment.exchange) result ∨
        Stale turns d handle vertices (moments.map Moment.exchange) result) ∧
      (OverPlan turns d handle vertices (moments.map Moment.exchange) result →
        ¬Stale turns d handle vertices (moments.map Moment.exchange) result) ∧
      (Spared (exchanges turns ++ moments.map Moment.exchange) →
        (∀ plan, d.plan handle = .ok plan → ∀ o ∈ plan.objects, o ∉ released (exchanges turns)) ∧
          ∀ m ∈ moments, ∀ number n, m.call = .render number n →
            .vertexArray number ∉ released (exchanges turns)) := by
  have hway := path_drawTriangles hpath
  refine ⟨(hcourse.traced traced_onContext).over_plan_or_stale hway, OverPlan.not_stale,
    fun hspared => ?_⟩
  obtain ⟨lost, hstock⟩ := hcourse.inStock traced_onContext inStock_onContext hspared.left
  refine ⟨fun plan hplan o ho => ?_, fun m hm number n hcall =>
    hway.notMem_released hstock hspared hm hcall⟩
  obtain ⟨place, hplace⟩ := exists_place_of_mem_objects hplan ho
  exact hstock.tally.notMem_released hplace

/-! ### An upload between two draws -/

/-- The turns of some operations **with a provider**, and the device and the provider after them. -/
def turnsOn {δ : Type} (provider : Provider Platform δ) :
    List Operation → GlDevice → δ → List Turn × GlDevice × δ
  | [], d, p => ([], d, p)
  | op :: ops, d, p =>
    let run := (op.carryOut d).run provider p
    let rest := turnsOn provider ops run.state run.provider
    (⟨d, op, run.moments, run.result, run.state⟩ :: rest.1, rest.2)

/-- The turns of some operations with a provider carry on a course. -/
theorem Course.append_turnsOn {δ : Type} (h : Course start turns d)
    (provider : Provider Platform δ) (ops : List Operation) (p : δ) :
    Course start (turns ++ (turnsOn provider ops d p).1) (turnsOn provider ops d p).2.1 := by
  induction ops generalizing turns d p with
  | nil =>
    rw [turnsOn, List.append_nil]
    exact h
  | cons op ops ih =>
    rw [turnsOn, List.append_cons]
    exact ih (h.turn (Dialogue.path_run provider (op.carryOut d) p)) _

/-- The turns are those of the operations, in their order. -/
theorem operation_turnsOn {δ : Type} (provider : Provider Platform δ) (ops : List Operation)
    (d : GlDevice) (p : δ) : (turnsOn provider ops d p).1.map (·.operation) = ops := by
  induction ops generalizing d p with
  | nil => rfl
  | cons op ops ih => exact congrArg (op :: ·) (ih _ _)

/-- A draw over the plan that only renders has its array from that plan. -/
theorem OverPlan.request_mem {now : List (Exchange Platform)} {vertices : Int}
    {result : Except Fault Unit} {number : Nat} {n : Int}
    (h : OverPlan turns d handle vertices now result)
    (hnow : now.map (·.call) = [.render number n]) :
    ∃ plan, d.plan handle = .ok plan ∧ plan.request ∈ (exchanges turns).map (·.call) := by
  cases h with
  | planless => cases hnow
  | unmade => cases hnow
  | made => cases hnow
  | kept plan hplan number' since hmade =>
    obtain ⟨first, maker, rfl, hmakes, -⟩ := hmade
    have hpast : ⟨plan.request, .ok number'⟩ ∈ exchanges (first ++ maker :: since) :=
      List.mem_flatMap_of_mem (List.mem_append_right _ (.head _)) hmakes.exchange_mem
    exact ⟨plan, hplan, List.mem_map_of_mem hpast⟩

/-- A triangle is drawn, and its **buffer is uploaded again**. -/
def reuploading : List Operation :=
  [.createShader .vertex, .compileShader 1 "position", .createShader .fragment,
    .compileShader 2 "f", .createProgram, .attachShader 3 1, .attachShader 3 2, .linkProgram 3,
    .createBuffer, .uploadBuffer 4 [0, 0, 0, 0], .attributeLocation 3 "position",
    .bindAttribute 3 0 4 1, .drawTriangles 3 3, .uploadBuffer 4 [0, 0, 0, 0]].map .ask

/-- The course of that on a simulated platform. -/
def reuploaded : List Turn × GlDevice × SimulatedPlatform :=
  turnsOn SimulatedPlatform.provider reuploading (onContext ⟨.pixels 400 300, 330⟩ none none) {}

/-- It is a course of a new device. -/
theorem course_reuploaded :
    Course (onContext ⟨.pixels 400 300, 330⟩ none none) reuploaded.1 reuploaded.2.1 :=
  Course.nil.append_turnsOn SimulatedPlatform.provider reuploading {}

/-- The plan is over the new buffer. -/
theorem plan_reuploaded : reuploaded.2.1.plan 3 = .ok ⟨3, [⟨2, "f", "position"⟩]⟩ := by
  decide +kernel

/-- The next draw of the triangle. -/
def redrawn : Run Platform GlDevice SimulatedPlatform Unit :=
  (drawTriangles 3 3 reuploaded.2.1).run SimulatedPlatform.provider reuploaded.2.2

/-- No array was asked for over the plan. -/
theorem request_notMem_reuploaded :
    .createVertexArray 3 [⟨2, "f", "position"⟩] ∉ (exchanges reuploaded.1).map (·.call) := by
  decide +kernel

/-- The draw after the upload only renders, and is not over the plan. -/
theorem not_overPlan_redrawn :
    redrawn.moments.map (·.call) = [.render 1 3] ∧
      ¬OverPlan reuploaded.1 reuploaded.2.1 3 3 (redrawn.moments.map Moment.exchange)
        redrawn.result := by
  have hcalls : redrawn.moments.map (·.call) = [.render 1 3] := by decide +kernel
  refine ⟨hcalls, fun h => ?_⟩
  have hnow : (redrawn.moments.map Moment.exchange).map (·.call) = [.render 1 3] := by
    rw [List.map_map]
    exact hcalls
  obtain ⟨plan, hplan, hmem⟩ := h.request_mem hnow
  obtain rfl := Except.ok.inj (hplan.symm.trans plan_reuploaded)
  exact request_notMem_reuploaded hmem

/-- After an upload the next draw renders **the array over the old buffer**, which was released.
The plan is over the new one, over which no array was made, and nothing was refused. -/
theorem draw_over_released_buffer :
    Course (onContext ⟨.pixels 400 300, 330⟩ none none) reuploaded.1 reuploaded.2.1 ∧
      Dialogue.Path (drawTriangles 3 3 reuploaded.2.1) redrawn.moments redrawn.result
        redrawn.state ∧
      reuploaded.2.1.plan 3 = .ok ⟨3, [⟨2, "f", "position"⟩]⟩ ∧
      .createVertexArray 3 [⟨1, "f", "position"⟩] ∈ (exchanges reuploaded.1).map (·.call) ∧
      .createVertexArray 3 [⟨2, "f", "position"⟩] ∉ (exchanges reuploaded.1).map (·.call) ∧
      .buffer 1 ∈ released (exchanges reuploaded.1) ∧
      redrawn.moments.map (·.call) = [.render 1 3] ∧ redrawn.result = .ok () ∧
      ¬OverPlan reuploaded.1 reuploaded.2.1 3 3 (redrawn.moments.map Moment.exchange)
        redrawn.result :=
  ⟨course_reuploaded, Dialogue.path_run _ _ _, plan_reuploaded, by decide +kernel,
    request_notMem_reuploaded, by decide +kernel, not_overPlan_redrawn.1,
    by decide +kernel, not_overPlan_redrawn.2⟩

/-- Nothing was refused, so that draw is stale, and no object of the plan was released. -/
theorem draw_over_plan_or_stale_reuploaded :
    Stale reuploaded.1 reuploaded.2.1 3 3 (redrawn.moments.map Moment.exchange) redrawn.result ∧
      (∀ o ∈ [.program 3, .buffer 2], o ∉ released (exchanges reuploaded.1)) ∧
      .vertexArray 1 ∉ released (exchanges reuploaded.1) := by
  have hspared : Spared (exchanges reuploaded.1 ++ redrawn.moments.map Moment.exchange) :=
    .of_isOk (by decide +kernel) (by decide +kernel)
  have hpath : Dialogue.Path (drawTriangles 3 3 reuploaded.2.1) redrawn.moments redrawn.result
      redrawn.state := Dialogue.path_run _ _ _
  obtain ⟨hdraw, -, hthere⟩ := draw_over_plan_or_stale course_reuploaded hpath
  obtain ⟨hobjects, harray⟩ := hthere hspared
  refine ⟨hdraw.resolve_left not_overPlan_redrawn.2, hobjects _ plan_reuploaded, ?_⟩
  obtain ⟨m, hm, hcall⟩ : ∃ m ∈ redrawn.moments, m.call = .render 1 3 := by
    rw [← List.mem_map, not_overPlan_redrawn.1]
    exact List.mem_singleton_self _
  exact harray m hm 1 3 hcall

end ShaderPreview.GlDevice
