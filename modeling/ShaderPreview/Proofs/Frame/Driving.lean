import ShaderPreview.Proofs.Frame.Arithmetic
import ShaderPreview.Proofs.Frame.Upkeep
import ShaderPreview.Proofs.Gl.Driving

/-!
# A Scheduler on a Device That Obliges

A frame reads the clock once. Then it does some arithmetic with the view and the time, and this is
all that can go wrong on a context that obliges: a measure may be unknown, or too large. If it does
not go wrong the program is rendered once, and if it does nothing is rendered.

A refresh of the display is one frame where there is a callback, and nothing where there is none.

## Main definitions

* `Scheduler.Listed`: the display's table holds the callback of the token and no other.
* `Scheduler.stopped`, `Scheduler.started`: what stopping and starting leave.

## Main results

* `Scheduler.drives_stop`, `Scheduler.drives_start`: where stopping and starting lead.
* `Scheduler.drives_refresh`: a refresh renders once, or its arithmetic fails.
-/

namespace ShaderPreview.Scheduler

open Procedure Platform GlDevice

variable {settings : RenderSettings} {w : Work} {s : Scheduler} {d : GlDevice} {p : Program}
  {err : Work → Fault → Scheduler → GlDevice → Prop}

/-! ### Starting and stopping -/

/-- The display's table holds **the callback of the token** and no other. -/
def Listed (s : Scheduler) : Prop := s.frames.entries = s.token.toList.map fun token => (token, ())

/-- A scheduler that has been **stopped**. -/
def stopped (s : Scheduler) : Scheduler := { frames := ⟨[], s.frames.nextToken⟩ }

/-- A scheduler that has been **started** at a reading. -/
def started (s : Scheduler) (p : Program) (reading : Float) : Scheduler where
  program := some p
  clock := some { start := reading }
  token := some s.frames.nextToken
  frames := ⟨[(s.frames.nextToken, ())], s.frames.nextToken + 1⟩

/-- **Stopping** leaves the display's table empty. -/
theorem drives_stop (h : s.Listed) {ok : Work → Unit → Scheduler → GlDevice → Prop}
    (hok : ok w () s.stopped d) : Drives w s d stop ok err := by
  obtain ⟨program, clock, token, ⟨entries, next⟩⟩ := s
  obtain rfl : entries = token.toList.map fun token => (token, ()) := h
  rw [stop, cancelFrames]
  refine Drives.bind (Drives.state_bind ?_)
  cases token with
  | none => exact Drives.pure (Drives.update hok)
  | some token =>
    have hcancelled : FrameTable.cancel ⟨[(token, ())], next⟩ token = ⟨[], next⟩ := by
      simp [FrameTable.cancel]
    have hend : ok w () { frames := FrameTable.cancel ⟨[(token, ())], next⟩ token } d := by
      rw [hcancelled]
      exact hok
    refine Drives.bind (Drives.ask (Leads.pure (Drives.bind (Drives.update ?_))))
    cases clock with
    | none => exact Drives.pure (Drives.update hend)
    | some clock => exact Drives.tell (Drives.update hend)

/-- **Starting** reads the clock once and leaves one callback. -/
theorem drives_start (h : s.Listed) {ok : Work → Unit → Scheduler → GlDevice → Prop}
    (hok : ∀ reading,
      ok { w with readings := w.readings ++ [reading] } () (s.started p reading) d) :
    Drives w s d (start p) ok err := by
  rw [start]
  refine Drives.bind (drives_stop h (Drives.bind (Drives.update ?_)))
  refine Drives.bind (Drives.ask (Leads.ask_now fun reading => ?_))
  refine Drives.bind (Drives.update (Drives.bind (Drives.ask (Leads.pure ?_))))
  exact Drives.update (hok reading)

/-! ### Drawing -/

/-- Setting uniforms leaves the program as drawable as it was. The induction is on the uniforms that
are left. -/
theorem drives_setUniforms {handle : Handle} {values : List (String × UniformValue)}
    (h : d.Drawable handle) {ok : Work → Unit → Scheduler → GlDevice → Prop}
    (hok : ∀ d', Stays d d' → d'.Drawable handle → ok w () s d') :
    Drives w s d (setUniforms handle values) ok err := by
  induction values generalizing d with
  | nil => exact Drives.pure (hok d Stays.refl h)
  | cons entry rest ih =>
    obtain ⟨name, value⟩ := entry
    rw [setUniforms]
    refine Drives.bind (Drives.ask (leads_uniformLocation h ?_ ?_))
    · exact ih h hok
    · intro location d₁ hstays hdrawable hfound
      obtain ⟨p, u, hp, hu⟩ := hfound
      have hrest : Drives w s d₁ (setUniforms handle rest) ok err :=
        ih hdrawable fun d' hstays' => hok d' (hstays.trans hstays')
      by_cases hlocation : (location != Device.absent) = true
      · simp only [hlocation, if_true]
        exact Drives.bind (Drives.ask (leads_setUniform hp hu hrest))
      · simp only [hlocation]
        exact hrest

/-- A program is rendered, once, if the arithmetic does not fail. -/
theorem drives_draw (hd : d.hasContext = true) (h : d.Drawable p.program) {elapsed : Float}
    {ok : Work → Unit → Scheduler → GlDevice → Prop}
    (hok : ∀ d', (∃ results, reckon settings d.view elapsed = .ok results) → Stays d d' →
      d'.Drawable p.program → ok { w with renders := w.renders + 1 } () s d')
    (herr : ∀ fault d', reckon settings d.view elapsed = .error fault → Stays d d' →
      d'.Drawable p.program → err w fault s d') :
    Drives w s d (draw settings p elapsed) ok err := by
  rw [draw]
  refine Drives.bind (Drives.ask (Leads.state_bind (Leads.pure ?_)))
  refine Drives.bind (Drives.ofExcept (fun aspect haspect => ?_) fun fault hfault =>
    herr fault d (by rw [reckon, hfault]; rfl) Stays.refl h)
  refine Drives.bind (Drives.ofExcept (fun matrices hmatrices => ?_) fun fault hfault =>
    herr fault d (by rw [reckon, haspect]; simp only [bind, Except.bind, hfault]) Stays.refl h)
  refine Drives.bind (Drives.ask (leads_setViewport hd ?_))
  refine Drives.bind (Drives.ask (Leads.bind (leads_requireContext hd
    (Leads.ask_plain rfl fun _ => ?_))))
  refine Drives.bind (Drives.ask (Leads.bind (leads_requireContext hd
    (Leads.ask_plain rfl fun _ => ?_))))
  refine Drives.bind (Drives.ask (leads_useProgram h ?_))
  refine Drives.bind (Drives.ofExcept (fun resolution hresolution => ?_) fun fault hfault =>
    herr fault d (by rw [reckon, haspect]; simp only [bind, Except.bind, hmatrices, hfault])
      Stays.refl h)
  refine Drives.bind (drives_setUniforms h fun d₁ hstays hdrawable => ?_)
  have hresults : reckon settings d.view elapsed = .ok (matrices, resolution) := by
    rw [reckon, haspect]
    simp only [bind, Except.bind, hmatrices, hresolution]
    rfl
  refine Drives.ask (leads_drawTriangles (hstays.hasContext_eq.trans hd) hdrawable ?_)
  exact fun d' hstays' hdrawable' =>
    hok d' ⟨_, hresults⟩ (hstays.trans hstays') hdrawable'

/-! ### Refreshing -/

/-- A frame reads the clock, and the program is rendered if the arithmetic does not fail. -/
theorem drives_renderFrame (hd : d.hasContext = true) {clock : FrameClock}
    (hp : s.program = some p) (hclock : s.clock = some clock) (h : d.Drawable p.program)
    {ok : Work → Unit → Scheduler → GlDevice → Prop}
    (hok : ∀ reading d', (∃ results, reckon settings d.view (clock.advance reading).elapsed =
        .ok results) → Stays d d' → d'.Drawable p.program →
      ok ⟨w.readings ++ [reading], w.renders + 1, w.verdict⟩ ()
        { s with clock := some (clock.advance reading) } d')
    (herr : ∀ reading fault d', reckon settings d.view (clock.advance reading).elapsed =
        .error fault → Stays d d' → d'.Drawable p.program →
      err ⟨w.readings ++ [reading], w.renders, w.verdict⟩ fault
        { s with clock := some (clock.advance reading) } d') :
    Drives w s d (renderFrame settings) ok err := by
  rw [renderFrame]
  refine Drives.state_bind ?_
  rw [hp, hclock]
  refine Drives.bind (Drives.ask (Leads.ask_now fun reading => ?_))
  refine Drives.bind (Drives.update (drives_draw hd h (fun d' => hok reading d') fun fault d' =>
    herr reading fault d'))

/-- **A refresh** is one frame where there is a callback. -/
theorem drives_refresh (hd : d.hasContext = true) {clock : FrameClock} {token : Nat}
    (hlisted : s.Listed) (htoken : s.token = some token)
    (hp : s.program = some p) (hclock : s.clock = some clock) (h : d.Drawable p.program)
    {ok : Work → Nat → Scheduler → GlDevice → Prop}
    (hok : ∀ reading d', (∃ results, reckon settings d.view (clock.advance reading).elapsed =
        .ok results) → Stays d d' → d'.Drawable p.program →
      ok ⟨w.readings ++ [reading], w.renders + 1, w.verdict⟩ 1
        { s with clock := some (clock.advance reading) } d')
    (herr : ∀ reading fault d', reckon settings d.view (clock.advance reading).elapsed =
        .error fault → Stays d d' → d'.Drawable p.program →
      err ⟨w.readings ++ [reading], w.renders, w.verdict⟩ fault
        { s with clock := some (clock.advance reading) } d') :
    Drives w s d (refresh settings) ok err := by
  have hentries : s.frames.entries = [(token, ())] := by
    rw [hlisted, htoken]
    rfl
  rw [refresh, FrameTable.dispatch]
  refine Drives.bind (Drives.state_bind (Drives.pure ?_))
  rw [hentries, FrameTable.runEach]
  refine Drives.bind (Drives.state_bind (Drives.pure ?_))
  have hcontains : s.frames.contains token = true := by
    rw [FrameTable.contains, hentries]
    simp
  rw [if_pos hcontains]
  refine Drives.bind (drives_renderFrame hd hp hclock h (fun reading d' hresults hstays hd' => ?_)
    herr)
  exact Drives.bind (Drives.pure (Drives.pure (hok reading d' hresults hstays hd')))

/-- Where there is no callback a refresh does nothing. -/
theorem refresh_of_listed (hlisted : s.Listed) (htoken : s.token = none) :
    refresh settings s = .done (.ok 0) s := by
  have hentries : s.frames.entries = [] := by
    rw [hlisted, htoken]
    rfl
  exact refresh_of_entries_nil hentries

end ShaderPreview.Scheduler
