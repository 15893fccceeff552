import ShaderPreview.Proofs.Frame.Driving
import ShaderPreview.Proofs.Pipeline.Driving
import ShaderPreview.Session

/-!
# A Session on a Device That Obliges

A session shows a **picture** or none. On a device that obliges a start has one of three outcomes. A
text that cannot be taken apart changes nothing but the sources at hand, and nothing is asked of the
device. Where the program is turned down the session shows nothing afterwards. Otherwise it shows a
new picture, whose time begins with the only reading that was taken.

Nothing is rendered by a start. A refresh renders once where there is a picture, unless its
arithmetic fails.

## Main definitions

* `Picture`: what is shown.
* `Session.Shows`, `Session.Fits`: a session with its picture, by itself and with its device.
* `Session.Loads`, `Session.Draws`: the outcomes of a start and of a refresh.

## Main results

* `Session.start_of_malformed`, `Session.drives_start`: a start comes to one of them.
* `Session.drives_refresh`: what a refresh comes to.
* `Session.drives_stop`: after a stop there is no picture.
-/

namespace ShaderPreview

/-- A **picture**: a program, when it was begun, and how many frames there were since. -/
structure Picture where
  program : Program
  clock : FrameClock

/-- The picture **one frame later**. -/
def Picture.advance (p : Picture) (reading : Float) : Picture :=
  { p with clock := p.clock.advance reading }

namespace Session

open Procedure Platform GlDevice

variable {settings : RenderSettings} {w : Work} {s : Session} {d : GlDevice} {text : String}
  {picture : Option Picture} {err : Work → Fault → Session → GlDevice → Prop}

/-! ### Pictures -/

/-- A session that **shows a picture**, or none: the pipeline has its program, the scheduler draws
this program by the picture's clock, and the display calls back if there is one. -/
structure Shows (s : Session) (picture : Option Picture) : Prop where
  program_eq : s.program = picture.map (·.program)
  drawn_eq : s.scheduler.program = picture.map (·.program)
  clock_eq : s.scheduler.clock = picture.map (·.clock)
  rendering_eq : s.rendering = picture.isSome

/-- A session that **fits its device**: what it shows may be drawn there. -/
structure Fits (s : Session) (d : GlDevice) (picture : Option Picture) : Prop
    extends Shows s picture where
  listed : s.scheduler.Listed
  hasContext : d.hasContext = true
  drawable : ∀ p ∈ picture, d.Drawable p.program.program
  handles_le : ∀ p ∈ picture, ∀ handle ∈ p.program.handles, handle ≤ d.lastHandle

/-- The **outcomes of a start**: what has passed is summed up, and there is a picture afterwards or
none. The handles of a new picture are not those of the old one. -/
inductive Loads (text : String) (picture : Option Picture) : Work → Option Picture → Prop
  | malformed {fault : BundleFault} (h : Bundle.split text = .error fault) :
    Loads text picture {} picture
  | rejected {sections : Sections} (h : Bundle.split text = .ok sections) :
    Loads text picture ⟨[], 0, some false⟩ none
  | installed {sections : Sections} {program : Program} {reading : Float}
      (h : Bundle.split text = .ok sections)
      (hshape : program.shape = Shape.ofName sections.shapeName)
      (hnew : ∀ old ∈ picture, ∀ handle ∈ program.handles, handle ∉ old.program.handles) :
    Loads text picture ⟨[reading], 0, some true⟩ (some ⟨program, { start := reading }⟩)

/-- The **outcomes of a refresh**. Where there is a picture it is drawn once, and if the arithmetic
fails it is not drawn. Such a frame counts all the same. -/
inductive Draws (settings : RenderSettings) (view : ViewSize) :
    Option Picture → Work → Except Fault Unit → Option Picture → Prop
  | idle : Draws settings view none {} (.ok ()) none
  | drawn {p : Picture} {reading : Float} {results : FrameMatrices × List Float}
      (h : Scheduler.reckon settings view (p.advance reading).clock.elapsed = .ok results) :
    Draws settings view (some p) ⟨[reading], 1, none⟩ (.ok ()) (some (p.advance reading))
  | failed {p : Picture} {reading : Float} {fault : Fault}
      (h : Scheduler.reckon settings view (p.advance reading).clock.elapsed = .error fault) :
    Draws settings view (some p) ⟨[reading], 0, none⟩ (.error fault) (some (p.advance reading))

/-- A refresh fails only as computations do. -/
theorem Draws.isArithmetic {view : ViewSize} {picture' : Option Picture} {fault : Fault}
    (h : Draws settings view picture w (.error fault) picture') : fault.IsArithmetic := by
  cases h with
  | failed hreckon => exact Scheduler.computed_reckon _ hreckon

/-- What is shown does not depend on the sources. -/
theorem Fits.keepSources {sources : Option Sources} (h : s.Fits d picture) :
    Fits { s with sources } d picture :=
  ⟨⟨h.program_eq, h.drawn_eq, h.clock_eq, h.rendering_eq⟩, h.listed, h.hasContext, h.drawable,
    h.handles_le⟩

/-! ### Stopping -/

/-- A session that has been **stopped**. -/
def stopped (s : Session) : Session :=
  { s with pipeline := {}, scheduler := s.scheduler.stopped }

/-- **Stopping** leaves nothing. -/
theorem drives_stop (h : s.scheduler.Listed) {ok : Work → Unit → Session → GlDevice → Prop}
    (hok : ∀ d', Stays d d' → ok w () s.stopped d') : Drives w s d stop ok err := by
  rw [stop]
  refine Drives.bind (Drives.zoom (Scheduler.drives_stop h ?_))
  exact Drives.zoom (Pipeline.drives_teardown hok)

/-! ### Starting -/

/-- A text that **cannot be taken apart** becomes known, and that is all. -/
theorem start_of_malformed {fault : BundleFault} (hd : d.hasContext = true)
    (h : Bundle.split text = .error fault) :
    (start settings text).implement GlDevice.perform (s, d) =
      .done (.error (.pipeline (.bundle fault)))
        ({ s with sources := some { raw := text } }, d) := by
  obtain ⟨glslVersion, view, hasContext, shaders, programs, buffers, lastHandle⟩ := d
  obtain rfl : hasContext = true := hd
  rw [start, readBundle, h]
  rfl

/-- Where there is a context the device is found there. -/
theorem drives_requireDevice (hd : d.hasContext = true)
    {ok : Work → Unit → Session → GlDevice → Prop} (hok : ok w () s d) :
    Drives w s d requireDevice ok err := by
  refine Drives.bind (Drives.ask (Leads.state_bind (Leads.pure ?_)))
  simp only [hd]
  exact Drives.pure hok

/-- Telling what mending did changes nothing. -/
theorem drives_tellRepair {fragment : String} {repair : Repair}
    {ok : Work → Unit → Session → GlDevice → Prop} (hok : ok w () s d) :
    Drives w s d (tellRepair fragment repair) ok err := by
  rw [tellRepair]
  cases repair.changed with
  | true => exact Drives.bind (Drives.tell (Drives.bind (Drives.tell (Drives.tell hok))))
  | false => exact Drives.pure hok

/-- A text that can be taken apart gives its parts. -/
theorem drives_readBundle {sections : Sections} (h : Bundle.split text = .ok sections)
    {ok : Work → Sections × Repair → Session → GlDevice → Prop}
    (hok : ∀ repair sources, ok w (sections, repair) { s with sources } d) :
    Drives w s d (readBundle settings text) ok err := by
  have hkeep : ∀ {s : Session} {sources : Sources} {ok : Work → Unit → Session → GlDevice → Prop},
      ok w () { s with sources := some sources } d → Drives w s d (keepSources sources) ok err :=
    fun hend => Drives.update hend
  have hparts : ((Bundle.split text).mapError fun fault => Fault.pipeline (.bundle fault)) =
      .ok sections := by
    rw [h]
    rfl
  rw [readBundle, hparts]
  refine Drives.bind (hkeep (Drives.bind (Drives.pure ?_)))
  exact Drives.bind (drives_tellRepair (Drives.bind (hkeep (Drives.pure (hok _ _)))))

/-- A verdict passes on as a verdict. -/
theorem drives_explain {α : Type} {fault : Fault} (h : fault.IsVerdict)
    {ok : Work → α → Session → GlDevice → Prop}
    (herr : ∀ fault : Fault, fault.IsVerdict → err w fault s d) :
    Drives w s d (explain fault) ok err := by
  cases fault with
  | pipeline fault =>
    refine Drives.state_bind ?_
    cases fault with
    | compile stage diagnostic sources =>
      exact Drives.bind (Drives.tell (Drives.fail (herr _ trivial)))
    | link diagnostic sources =>
      exact Drives.bind (Drives.tell (Drives.fail (herr _ trivial)))
    | _ => exact h.elim
  | _ => exact h.elim

/-- **A start** of a text that can be taken apart: the program is turned down and nothing is shown,
or a new picture is. -/
theorem drives_start (hfits : s.Fits d picture) {sections : Sections}
    (h : Bundle.split text = .ok sections) {ok : Work → Unit → Session → GlDevice → Prop}
    (hok : ∀ w' picture' s' d', Loads text picture w' picture' → s'.Fits d' picture' →
      d'.view = d.view → ok w' () s' d')
    (herr : ∀ w' fault s' d', fault.IsVerdict → Loads text picture w' none → s'.Fits d' none →
      d'.view = d.view → err w' fault s' d') :
    Drives {} s d (start settings text) ok err := by
  obtain ⟨mesh, hmesh⟩ := Mesh.exists_ofShape_ofName sections.shapeName
  rw [start]
  refine Drives.bind (drives_requireDevice hfits.hasContext ?_)
  refine Drives.bind (drives_readBundle h fun repair sources => ?_)
  refine Drives.bind (drives_stop ?_ fun d₁ hstays₁ => ?_)
  · exact hfits.listed
  refine Drives.bind (Drives.handle (Drives.zoom (Pipeline.drives_build ?_ hmesh ?_ ?_)))
  · exact hstays₁.hasContext_eq.trans hfits.hasContext
  · intro w' q owned d₂ ⟨hreadings, hrenders⟩ hverdict hstays₂ hdrawable hnew hshape
    have hlisted : s.stopped.scheduler.Listed := rfl
    refine Drives.zoom (Scheduler.drives_start hlisted fun reading => ?_)
    have hloads : Loads text picture ⟨w'.readings ++ [reading], w'.renders, w'.verdict⟩
        (some ⟨q, { start := reading }⟩) := by
      rw [hreadings, hrenders, hverdict]
      refine .installed h hshape fun old hold handle hhandle hmem => ?_
      have hle := Int.le_trans (hfits.handles_le old hold handle hmem) hstays₁.lastHandle_le
      exact Int.not_le.mpr (hnew handle hhandle).1 hle
    refine hok _ _ _ _ hloads ⟨⟨rfl, rfl, rfl, rfl⟩, rfl, ?_, ?_, ?_⟩ ?_
    · exact (hstays₁.trans hstays₂).hasContext_eq.trans hfits.hasContext
    · rintro _ ⟨⟩
      exact hdrawable
    · rintro _ ⟨⟩ handle hhandle
      exact (hnew handle hhandle).2
    · exact (hstays₁.trans hstays₂).view_eq
  · intro w' fault d₂ ⟨hreadings, hrenders⟩ hstays₂ hverdict hfault
    refine drives_explain hfault fun fault hfault => ?_
    have hloads : Loads text picture w' none := by
      obtain ⟨readings, renders, verdict⟩ := w'
      obtain ⟨rfl, rfl, rfl⟩ : readings = [] ∧ renders = 0 ∧ verdict = some false :=
        ⟨hreadings, hrenders, hverdict⟩
      exact .rejected h
    refine herr _ _ _ _ hfault hloads ⟨⟨rfl, rfl, rfl, rfl⟩, rfl, ?_, ?_, ?_⟩ ?_
    · exact (hstays₁.trans hstays₂).hasContext_eq.trans hfits.hasContext
    · rintro _ ⟨⟩
    · rintro _ ⟨⟩
    · exact (hstays₁.trans hstays₂).view_eq

/-! ### Refreshing -/

/-- A picture that was drawn may be drawn again. -/
theorem Fits.advance {p : Picture} {reading : Float} {d' : GlDevice} (h : s.Fits d (some p))
    (hstays : GlDevice.Stays d d') (hdrawable : d'.Drawable p.program.program) :
    Fits { s with scheduler := { s.scheduler with clock := some (p.clock.advance reading) } } d'
      (some (p.advance reading)) := by
  refine ⟨⟨h.program_eq, h.drawn_eq, rfl, h.rendering_eq⟩, h.listed, ?_, ?_, ?_⟩
  · exact hstays.hasContext_eq.trans h.hasContext
  · rintro _ ⟨⟩
    exact hdrawable
  · rintro _ ⟨⟩ handle hhandle
    exact Int.le_trans (h.handles_le p rfl handle hhandle) hstays.lastHandle_le

/-- **A refresh** draws the picture, if the arithmetic does not fail. -/
theorem drives_refresh {p : Picture} (h : s.Fits d (some p))
    {ok : Work → Nat → Session → GlDevice → Prop}
    (hok : ∀ w' next s' d', Draws settings d.view (some p) w' (.ok ()) (some next) →
      s'.Fits d' (some next) → d'.view = d.view → ok w' 1 s' d')
    (herr : ∀ w' fault next s' d', Draws settings d.view (some p) w' (.error fault) (some next) →
      s'.Fits d' (some next) → d'.view = d.view → err w' fault s' d') :
    Drives {} s d (refresh settings) ok err := by
  obtain ⟨token, htoken⟩ : ∃ token, s.scheduler.token = some token :=
    Option.isSome_iff_exists.mp h.rendering_eq
  refine Drives.zoom (Scheduler.drives_refresh h.hasContext h.listed htoken h.drawn_eq h.clock_eq
    (h.drawable p rfl) ?_ ?_)
  · rintro reading d' ⟨results, hresults⟩ hstays hdrawable
    exact hok _ _ _ _ (.drawn hresults) (h.advance hstays hdrawable) hstays.view_eq
  · intro reading fault d' hfault hstays hdrawable
    exact herr _ _ _ _ _ (.failed hfault) (h.advance hstays hdrawable) hstays.view_eq

/-- Without a picture a refresh does nothing. -/
theorem refresh_of_none (h : s.Fits d none) :
    (refresh settings).implement GlDevice.perform (s, d) = .done (.ok 0) (s, d) := by
  have htoken : s.scheduler.token = none :=
    Option.isNone_iff_eq_none.mp (Option.isSome_eq_false_iff.mp h.rendering_eq)
  have hrefresh : refresh settings s = .done (.ok 0) s := by
    rw [refresh, onScheduler, zoom, Scheduler.refresh_of_listed h.listed htoken]
    rfl
  rw [implement, hrefresh]
  rfl

end Session

end ShaderPreview
