import ShaderPreview.Proofs.CommandLine.Reading
import ShaderPreview.Proofs.Session.Driving

/-!
# A Preview as a Machine

On a platform that obliges a preview of a file is a small machine. It has a view, and a picture or
none. An event changes the view, or it is a load with its three outcomes, or nothing happens. A
round handles all the events of its batch, refreshes once, and presents the picture if there is one
then. The loop ends after the first round whose events close the window.

Two things end it before: the refreshes that it is given are used up, or the arithmetic of a frame
fails. The second one may happen where a view is too large for the numbers that are drawn with.

The machine is put beside the calls of a run. What passes during each of its steps is given in full
where it is a call of the window or of the files. Of the calls of a context the sum is given: what
was timed, what was rendered, and the verdict on the program. At the beginning of each round, and at
its presentation, the window is in the machine's state.

## Main definitions

* `Machine`: the state. `Machine.Depicts`: a window in this state.
* `Machine.Loads`, `Machine.Draws`: a load and a refresh.
* `Handles`, `HandlesAll`: one event, and the events of a batch.
* `Turn`, `Loops`: one round, and the loop.
* `Runs`: a whole run.

## Main results

* `Preview.loads_of_load`, `Preview.handles_of_handleEvent`, `Preview.draws_of_refresh`: each step
  of a preview is the machine's.
* `Preview.turn_of_round`, `Preview.loops_of_rounds`: so is a round, and by induction the loop.
* `Preview.runs_of_run`: so is a whole run.
-/

namespace ShaderPreview.Preview

open Procedure Platform GlDevice

/-! ### The machine -/

/-- What a preview **comes down to**: a view, and a picture or none. -/
structure Machine where
  view : ViewSize
  picture : Option Picture := none

namespace Machine

/-- A window that **is in the state** of the machine. -/
structure Depicts (m : Machine) (w : PreviewWindow) : Prop where
  view_eq : w.device.view = m.view
  shows : w.content.Shows m.picture

/-- A window in the state of the machine **whose device goes along**. -/
structure Sound (m : Machine) (w : PreviewWindow) : Prop where
  view_eq : w.device.view = m.view
  fits : w.content.Fits w.device m.picture

/-- Whether the device goes along may be forgotten. -/
theorem Sound.depicts {m : Machine} {w : PreviewWindow} (h : m.Sound w) : m.Depicts w :=
  ⟨h.view_eq, h.fits.toShows⟩

/-- **A load** of a text. Nothing at all is asked for a text that cannot be taken apart. -/
structure Loads (text : String) (m : Machine) (passed : List (Exchange Platform)) (m' : Machine) :
    Prop where
  loads : Session.Loads text m.picture (work passed) m'.picture
  view_eq : m'.view = m.view
  graphics : ∀ x ∈ passed, x.call.isGraphics = true
  idle : (Bundle.split text).isOk = false → passed = []

/-- **A refresh**. Nothing at all is asked without a picture. -/
structure Draws (m : Machine) (passed : List (Exchange Platform)) (r : Except Fault Unit)
    (m' : Machine) : Prop where
  draws : Session.Draws renderSettings m.view m.picture (work passed) r m'.picture
  view_eq : m'.view = m.view
  graphics : ∀ x ∈ passed, x.call.isGraphics = true
  idle : m.picture = none → passed = []

end Machine

/-- **One event** of a preview of a file. -/
inductive Handles (name : String) :
    WindowEvent → Machine → List (Exchange Platform) → Machine → Prop
  | quit {m : Machine} : Handles name .quit m [] m
  | keyUp {m : Machine} {key : Key} : Handles name (.keyUp key) m [] m
  | otherKey {m : Machine} {key : Key} (h : key ≠ reloadKey) : Handles name (.keyDown key) m [] m
  | resize {m : Machine} {width height : Int} :
    Handles name (.resize width height) m
      [⟨.setContextViewport (.pixels width height), .ok ()⟩]
      { m with view := .pixels width height }
  | unread {m : Machine} {fault : FileFault} :
    Handles name (.keyDown reloadKey) m
      [⟨.readFile (Path.ofString name), .error (.file fault)⟩] m
  | reread {m m' : Machine} {bytes : List UInt8} {text : String}
      {passed : List (Exchange Platform)} (htext : textOf (.ok bytes) = .ok text)
      (hloads : m.Loads text passed m') :
    Handles name (.keyDown reloadKey) m
      (⟨.readFile (Path.ofString name), .ok bytes⟩ :: passed) m'

/-- Events **one after another**. -/
inductive HandlesAll (name : String) :
    List WindowEvent → Machine → List (Exchange Platform) → Machine → Prop
  | nil {m : Machine} : HandlesAll name [] m [] m
  | cons {event : WindowEvent} {rest : List WindowEvent} {m m₁ m' : Machine}
      {first second : List (Exchange Platform)} (hevent : Handles name event m first m₁)
      (hrest : HandlesAll name rest m₁ second m') :
    HandlesAll name (event :: rest) m (first ++ second) m'

/-- Whether an event **closes the window**. -/
def closes : WindowEvent → Bool
  | .quit => true
  | .keyDown key => key = .escape
  | _ => false

/-- The **presentation**: the display is flipped if there is a picture, and there is a wait. -/
def showing (m : Machine) (w : PreviewWindow) : List (Moment Platform PreviewWindow) :=
  (if m.picture.isSome then [⟨w, .flip, .ok ()⟩] else []) ++
    [⟨w, .tick ({} : WindowSettings).targetFps, .ok ()⟩]

/-- **One round** of the machine: all events of the batch in order, one refresh, and the
presentation. If the refresh fails there is no presentation. -/
inductive Turn (name : String) (batch : EventBatch) (m : Machine) :
    List (Moment Platform PreviewWindow) → Except Fault Unit → Machine → Prop
  | shown {events drawing : List (Exchange Platform)} {m₁ m' : Machine} {w : PreviewWindow}
      {moments : List (Moment Platform PreviewWindow)}
      (hevents : HandlesAll name batch.events m events m₁) (hdraws : m₁.Draws drawing (.ok ()) m')
      (hmoments : moments.map Moment.exchange = events ++ drawing) (hw : m'.Depicts w) :
    Turn name batch m (moments ++ showing m' w) (.ok ()) m'
  | failed {events drawing : List (Exchange Platform)} {m₁ m' : Machine} {fault : Fault}
      {moments : List (Moment Platform PreviewWindow)}
      (hevents : HandlesAll name batch.events m events m₁)
      (hdraws : m₁.Draws drawing (.error fault) m')
      (hmoments : moments.map Moment.exchange = events ++ drawing) :
    Turn name batch m moments (.error fault) m'

/-- **The loop** of the machine, for a number of refreshes. Each round begins with a look at the
events, in a window that is in the machine's state. -/
inductive Loops (name : String) :
    Nat → Machine → List (Moment Platform PreviewWindow) → Except Fault Unit → Machine → Prop
  | exhausted {m : Machine} : Loops name 0 m [] (.error .outOfRefreshes) m
  | failed {refreshes : Nat} {m m' : Machine} {w : PreviewWindow} {batch : EventBatch}
      {moments : List (Moment Platform PreviewWindow)} {fault : Fault} (hw : m.Depicts w)
      (hturn : Turn name batch m moments (.error fault) m') :
    Loops name (refreshes + 1) m (⟨w, .pollEvents, .ok batch⟩ :: moments) (.error fault) m'
  | closed {refreshes : Nat} {m m' : Machine} {w : PreviewWindow} {batch : EventBatch}
      {moments : List (Moment Platform PreviewWindow)} (hw : m.Depicts w)
      (hturn : Turn name batch m moments (.ok ()) m') (hcloses : batch.events.any closes = true) :
    Loops name (refreshes + 1) m (⟨w, .pollEvents, .ok batch⟩ :: moments) (.ok ()) m'
  | next {refreshes : Nat} {m m₁ m' : Machine} {w : PreviewWindow} {batch : EventBatch}
      {moments rest : List (Moment Platform PreviewWindow)} {r : Except Fault Unit}
      (hw : m.Depicts w) (hturn : Turn name batch m moments (.ok ()) m₁)
      (hcloses : batch.events.any closes = false) (hrest : Loops name refreshes m₁ rest r m') :
    Loops name (refreshes + 1) m (⟨w, .pollEvents, .ok batch⟩ :: (moments ++ rest)) r m'

/-- **A run** of a preview of a file. If there is a text, a window is opened with a view of the size
that was asked for, the text is loaded, and the loop of the machine follows. In the end everything
is given back and the platform is left. -/
inductive Runs (refreshes : Nat) (arguments : Arguments) :
    List (Moment Platform (Option PreviewWindow)) → Except Fault Exit → Prop
  | unread {fault : FileFault} :
    Runs refreshes arguments
      [⟨none, .readFile (Path.ofString arguments.bundle), .error (.file fault)⟩] (.ok .badInput)
  | shown {bytes : List UInt8} {text : String} {m m' : Machine} {r : Except Fault Unit}
      {opening : List (Moment Platform (Option PreviewWindow))}
      {first loop given : List (Moment Platform PreviewWindow)}
      {last : Moment Platform PreviewWindow}
      (htext : textOf (.ok bytes) = .ok text) (hopening : ∀ x ∈ opening, opens x.call = true)
      (hfirst : Machine.Loads text { view := arguments.size } (first.map Moment.exchange) m)
      (hloop : Loops arguments.bundle refreshes m loop r m')
      (hwork : work (given.map Moment.exchange) = {})
      (hgiven : ∀ x ∈ given, x.call.isGraphics = true)
      (hlast : last.exchange = ⟨.quit, .ok ()⟩) :
    Runs refreshes arguments
      (⟨none, .readFile (Path.ofString arguments.bundle), .ok bytes⟩ :: (opening ++
        (first ++ (loop ++ (given ++ [last]))).map fun x => ⟨some x.state, x.call, x.reply⟩))
      (r.map fun _ => .ok)

variable {name text : String} {m : Machine} {w w' : PreviewWindow}
  {moments : List (Moment Platform PreviewWindow)} {refreshes : Nat}

/-- What is shown is driven on the window's device. -/
theorem leads_onContent {α : Type} {p : DeviceProcedure Session α} {w₁ : Work}
    {ok : Work → α → PreviewWindow → Prop} {err : Work → Fault → PreviewWindow → Prop}
    (h : Drives w₁ w.content w.device p
      (fun w₁ a s d => ok w₁ a { w with content := s, device := d })
      fun w₁ fault s d => err w₁ fault { w with content := s, device := d }) :
    Leads w₁ w (Window.onContent p) ok err := Leads.zoom h.leads

/-! ### A load -/

/-- A text that cannot be taken apart is reported, and that is all that comes of it. -/
theorem load_of_malformed {fault : BundleFault} (hd : w.device.hasContext = true)
    (h : Bundle.split text = .error fault) :
    load text w = .tell (.report ((PipelineFault.bundle fault).report (some { raw := text })))
      (.done (.ok ())
        { w with content := { w.content with sources := some { raw := text } } }) := by
  have hstart : Window.onContent (Session.start renderSettings text) w =
      .done (.error (.pipeline (.bundle fault)))
        { w with content := { w.content with sources := some { raw := text } } } := by
    rw [Window.onContent, zoom, Session.start_of_malformed hd h]
    rfl
  rw [load, handle, hstart]
  rfl

/-- A load asks only for graphics. -/
theorem graphic_load : Graphic (load text) :=
  keeps_load graphic_onContent

/-- A text that can be taken apart is loaded, as the machine says, and never at fault. -/
theorem leads_load (hm : m.Sound w) {sections : Sections} (h : Bundle.split text = .ok sections) :
    Leads {} w (load text) (fun w₁ _ w' => ∃ picture, Session.Loads text m.picture w₁ picture ∧
      Machine.Sound ⟨m.view, picture⟩ w' ∧ w'.running = w.running) never := by
  rw [load]
  refine Leads.handle (leads_onContent (Session.drives_start hm.fits h ?_ ?_))
  · intro w₁ picture s' d' hloads hfits hview
    exact ⟨picture, hloads, ⟨hview.trans hm.view_eq, hfits⟩, rfl⟩
  · intro w₁ fault s' d' hfault hloads hfits hview
    have hsound : Machine.Sound ⟨m.view, none⟩ { w with content := s', device := d' } :=
      ⟨hview.trans hm.view_eq, hfits⟩
    cases fault with
    | pipeline failure =>
      cases failure with
      | compile stage diagnostic sources =>
        exact Leads.state_bind (Leads.tell ⟨none, hloads, hsound, rfl⟩)
      | link diagnostic sources =>
        exact Leads.state_bind (Leads.tell ⟨none, hloads, hsound, rfl⟩)
      | _ => exact hfault.elim
    | _ => exact hfault.elim

/-- **A load** is the machine's. -/
theorem loads_of_load (hm : m.Sound w) {result : Except Fault Unit}
    (hpath : Dialogue.Path (load text w) moments result w')
    (hobliges : ∀ x ∈ moments, obliges x.exchange = true) :
    ∃ m', m.Loads text (moments.map Moment.exchange) m' ∧ result = .ok () ∧ m'.Sound w' ∧
      w'.running = w.running := by
  rcases h : Bundle.split text with fault | sections
  · rw [load_of_malformed hm.fits.hasContext h] at hpath
    cases hpath with
    | tell hpath =>
      cases hpath
      have hloads : m.Loads text [] m :=
        ⟨.malformed h, rfl, List.forall_mem_nil _, fun _ => rfl⟩
      exact ⟨m, hloads, rfl, ⟨hm.view_eq, hm.fits.keepSources⟩, rfl⟩
  · have hend := (leads_load hm h).path hpath hobliges
    rcases result with fault | _
    · exact hend.elim
    · obtain ⟨picture, hloads, hsound, hrunning⟩ := hend
      refine ⟨⟨m.view, picture⟩, ⟨hloads, rfl, ?_, ?_⟩, rfl, hsound, hrunning⟩
      · exact List.forall_mem_map.mpr (graphic_load.path hpath)
      · rw [h]
        exact nofun

/-! ### Events -/

/-- A new view is kept first, and then the context is told of it. -/
theorem setViewport_apply {d : GlDevice} {view : ViewSize} (hd : d.hasContext = true) :
    GlDevice.setViewport view d =
      .ask { d with view } (.setContextViewport view) fun reply => .done reply { d with view } := by
  obtain ⟨glslVersion, view', hasContext, shaders, programs, buffers, lastHandle⟩ := d
  obtain rfl : hasContext = true := hd
  rfl

/-- What a read on a platform that obliges gives: the file has gone, or it holds text. -/
theorem textOf_of_obliges {path : ShaderPreview.Path} {reply : Except Fault (List UInt8)}
    (h : obliges ⟨.readFile path, reply⟩ = true) :
    (∃ fault, reply = .error (.file fault)) ∨
      ∃ bytes text, reply = .ok bytes ∧ textOf (.ok bytes) = .ok text := by
  rcases reply with fault | bytes
  · cases fault with
    | file fault => exact .inl ⟨fault, rfl⟩
    | _ => cases h
  · rcases hdecode : Utf8.decode bytes with fault | text
    · have hnot : (Utf8.decode bytes).isOk = true := h
      rw [hdecode] at hnot
      cases hnot
    · refine .inr ⟨bytes, String.ofList (Text.normalizeNewlines text.toList), rfl, ?_⟩
      rw [textOf_ok, hdecode]
      rfl

/-- What is made of a file that was read again is the machine's. -/
theorem handles_of_reread (hm : m.Sound w) {reply : Except Fault (List UInt8)}
    {result : Except Fault Unit} (hpath : Dialogue.Path (reread name reply w) moments result w')
    (hreply : obliges ⟨.readFile (Path.ofString name), reply⟩ = true)
    (hobliges : ∀ x ∈ moments, obliges x.exchange = true) :
    ∃ m', Handles name (.keyDown reloadKey) m
        (⟨.readFile (Path.ofString name), reply⟩ :: moments.map Moment.exchange) m' ∧
      result = .ok () ∧ m'.Sound w' ∧ w'.running = w.running := by
  rcases textOf_of_obliges hreply with ⟨fault, rfl⟩ | ⟨bytes, text, rfl, htext⟩
  · cases hpath with
    | tell hpath =>
      cases hpath
      exact ⟨m, .unread, rfl, hm, rfl⟩
  · rw [reread, htext] at hpath
    cases hpath with
    | tell hpath =>
      obtain ⟨m', hloads, hresult, hsound, hrunning⟩ := loads_of_load hm hpath hobliges
      exact ⟨m', .reread htext hloads, hresult, hsound, hrunning⟩

/-- **An event** is the machine's. -/
theorem handles_of_handleEvent (hname : name ≠ inputName) (hm : m.Sound w) {event : WindowEvent}
    {result : Except Fault Unit}
    (hpath : Dialogue.Path (Window.handleEvent (conduct name) event w) moments result w')
    (hobliges : ∀ x ∈ moments, obliges x.exchange = true) :
    ∃ m', Handles name event m (moments.map Moment.exchange) m' ∧ result = .ok () ∧ m'.Sound w' ∧
      w'.running = (w.running && !closes event) := by
  cases event with
  | quit =>
    cases hpath
    exact ⟨m, .quit, rfl, ⟨hm.view_eq, hm.fits⟩, (Bool.and_false _).symm⟩
  | keyUp key =>
    cases hpath
    exact ⟨m, .keyUp, rfl, hm, (Bool.and_true _).symm⟩
  | resize width height =>
    obtain ⟨moments', final, rfl, rfl, hview⟩ := path_mapState_iff.mp hpath
    rw [setViewport_apply hm.fits.hasContext] at hview
    cases hview with
    | ask reply hview =>
      cases hview
      rcases result with fault | _
      · cases hobliges _ (.head _)
      · refine ⟨{ m with view := .pixels width height }, .resize, rfl, ⟨rfl, ?_⟩,
          (Bool.and_true _).symm⟩
        have hfits := hm.fits
        exact ⟨hfits.toShows, hfits.listed, hfits.hasContext, hfits.drawable, hfits.handles_le⟩
  | keyDown key =>
    by_cases hkey : key = reloadKey
    · subst hkey
      rw [handleEvent_reloadKey hname] at hpath
      obtain ⟨reply, rest, rfl, hrest⟩ := path_ask_attempt_bind hpath
      obtain ⟨hreply, hobliges⟩ := List.forall_mem_cons.mp hobliges
      obtain ⟨m', hhandles, hresult, hsound, hrunning⟩ := handles_of_reread hm hrest hreply hobliges
      exact ⟨m', hhandles, hresult, hsound, hrunning.trans (Bool.and_true _).symm⟩
    · have hnone : (conduct name).onKey key = none := by
        simp [conduct, hkey]
      rw [Window.handleEvent, hnone] at hpath
      by_cases hescape : key = .escape
      · rw [if_pos hescape] at hpath
        cases hpath
        refine ⟨m, .otherKey hkey, rfl, ⟨hm.view_eq, hm.fits⟩, ?_⟩
        simp [closes, hescape]
      · rw [if_neg hescape] at hpath
        cases hpath
        refine ⟨m, .otherKey hkey, rfl, hm, ?_⟩
        simp [closes, hescape]

/-- All events of a batch are the machine's. -/
theorem handlesAll_of_handleEvents (hname : name ≠ inputName) (hm : m.Sound w)
    {events : List WindowEvent} {result : Except Fault Unit}
    (hpath : Dialogue.Path (Window.handleEvents (conduct name) events w) moments result w')
    (hobliges : ∀ x ∈ moments, obliges x.exchange = true) :
    ∃ m', HandlesAll name events m (moments.map Moment.exchange) m' ∧ result = .ok () ∧
      m'.Sound w' ∧ w'.running = (w.running && !events.any closes) := by
  induction events generalizing w m moments with
  | nil =>
    cases hpath
    exact ⟨m, .nil, rfl, hm, (Bool.and_true _).symm⟩
  | cons event rest ih =>
    rcases path_bind_iff.mp hpath with
      ⟨fault, rfl, hfirst⟩ | ⟨_, w₁, first, second, rfl, hfirst, hsecond⟩
    · obtain ⟨m₁, -, hfault, -⟩ := handles_of_handleEvent hname hm hfirst hobliges
      cases hfault
    · obtain ⟨hobliges₁, hobliges₂⟩ := List.forall_mem_append.mp hobliges
      obtain ⟨m₁, hevent, -, hm₁, hrunning₁⟩ := handles_of_handleEvent hname hm hfirst hobliges₁
      obtain ⟨m', hrest, hresult, hm', hrunning'⟩ := ih hm₁ hsecond hobliges₂
      refine ⟨m', ?_, hresult, hm', ?_⟩
      · rw [List.map_append]
        exact .cons hevent hrest
      · rw [hrunning', hrunning₁, List.any_cons, Bool.not_or, Bool.and_assoc]

/-! ### A refresh -/

/-- A refresh of a window that shows a picture draws it once, and the picture is the next one, also
when the draw is at fault. -/
theorem leads_refresh {p : Picture} (hfits : w.content.Fits w.device (some p)) :
    Leads {} w (conduct name).refresh
      (fun w₁ count w' => count = 1 ∧ ∃ next,
        Session.Draws renderSettings w.device.view (some p) w₁ (.ok ()) (some next) ∧
          Machine.Sound ⟨w.device.view, some next⟩ w' ∧ w'.running = w.running)
      fun w₁ fault w' => ∃ next,
        Session.Draws renderSettings w.device.view (some p) w₁ (.error fault) (some next) ∧
          Machine.Sound ⟨w.device.view, some next⟩ w' ∧ w'.running = w.running := by
  refine leads_onContent (Session.drives_refresh hfits ?_ ?_)
  · intro w₁ next s' d' hdraws hfits hview
    exact ⟨rfl, next, hdraws, ⟨hview, hfits⟩, rfl⟩
  · intro w₁ fault next s' d' hdraws hfits hview
    exact ⟨next, hdraws, ⟨hview, hfits⟩, rfl⟩

/-- **A refresh** is the machine's, and gives one callback where there is a picture. -/
theorem draws_of_refresh (hm : m.Sound w) {result : Except Fault Nat}
    (hpath : Dialogue.Path ((conduct name).refresh w) moments result w')
    (hobliges : ∀ x ∈ moments, obliges x.exchange = true) :
    ∃ r m', m.Draws (moments.map Moment.exchange) r m' ∧ m'.Sound w' ∧ w'.running = w.running ∧
      result = r.map fun _ => if m'.picture.isSome then 1 else 0 := by
  obtain ⟨view, picture⟩ := m
  obtain ⟨rfl, hfits⟩ := hm
  cases picture with
  | none =>
    have hnone : (conduct name).refresh w = .done (.ok 0) w := by
      change Window.onContent (Session.refresh renderSettings) w = _
      rw [Window.onContent, zoom, Session.refresh_of_none hfits]
      rfl
    rw [hnone] at hpath
    cases hpath
    have hdraws : Machine.Draws ⟨w.device.view, none⟩ [] (.ok ()) ⟨w.device.view, none⟩ :=
      ⟨.idle, rfl, List.forall_mem_nil _, fun _ => rfl⟩
    exact ⟨_, _, hdraws, ⟨rfl, hfits⟩, rfl, rfl⟩
  | some p =>
    have hgraphics : ∀ x ∈ moments.map Moment.exchange, x.call.isGraphics = true :=
      List.forall_mem_map.mpr (graphic_onContent.path hpath)
    have hidle : some p = none → moments.map Moment.exchange = [] :=
      fun h => absurd h (Option.some_ne_none p)
    have hend := (leads_refresh hfits).path hpath hobliges
    rcases result with fault | count
    · obtain ⟨next, hdraws, hsound, hrunning⟩ := hend
      exact ⟨.error fault, ⟨w.device.view, some next⟩, ⟨hdraws, rfl, hgraphics, hidle⟩, hsound,
        hrunning, rfl⟩
    · obtain ⟨rfl, next, hdraws, hsound, hrunning⟩ := hend
      exact ⟨.ok (), ⟨w.device.view, some next⟩, ⟨hdraws, rfl, hgraphics, hidle⟩, hsound, hrunning,
        rfl⟩

/-- The presentation flips the display where there was a callback. -/
theorem showing_of_present {result : Except Fault Unit}
    (hpath : Dialogue.Path (Window.present (conduct name) (if m.picture.isSome then 1 else 0) w)
      moments result w')
    (hobliges : ∀ x ∈ moments, obliges x.exchange = true) :
    moments = showing m w ∧ result = .ok () ∧ w' = w := by
  have hwait : ∀ {moments : List (Moment Platform PreviewWindow)},
      Dialogue.Path (Platform.ask (.tick (conduct name).targetFps) w) moments result w' →
      (∀ x ∈ moments, obliges x.exchange = true) →
        moments = [⟨w, .tick ({} : WindowSettings).targetFps, .ok ()⟩] ∧ result = .ok () ∧
          w' = w := by
    intro moments hpath hobliges
    cases hpath with
    | ask reply hpath =>
      cases hpath
      rcases result with fault | _
      · cases hobliges _ (.head _)
      · exact ⟨rfl, rfl, rfl⟩
  rw [Window.present] at hpath
  rw [showing]
  cases hpicture : m.picture.isSome with
  | false =>
    rw [hpicture] at hpath
    exact hwait hpath hobliges
  | true =>
    rw [hpicture] at hpath
    rcases path_ask_bind hpath with ⟨fault, rfl, -, -⟩ | ⟨_, rest, rfl, hrest⟩
    · cases hobliges _ (.head _)
    · obtain ⟨rfl, hresult, hw'⟩ := hwait hrest (List.forall_mem_cons.mp hobliges).2
      exact ⟨rfl, hresult, hw'⟩

/-! ### The loop -/

/-- **A round** is a turn of the machine, after a look at the events. -/
theorem turn_of_round (hname : name ≠ inputName) (hm : m.Sound w) {result : Except Fault Unit}
    (hpath : Dialogue.Path (Window.round (conduct name) w) moments result w')
    (hobliges : ∀ x ∈ moments, obliges x.exchange = true) :
    ∃ batch rest m', moments = ⟨w, .pollEvents, .ok batch⟩ :: rest ∧
      Turn name batch m rest result m' ∧ m'.Sound w' ∧
      w'.running = (w.running && !batch.events.any closes) := by
  rw [Window.round_eq] at hpath
  rcases path_ask_bind hpath with ⟨fault, rfl, -, -⟩ | ⟨batch, rest, rfl, hrest⟩
  · cases hobliges _ (.head _)
  obtain ⟨hpolled, hobliges⟩ := List.forall_mem_cons.mp hobliges
  -- The context stays while the window is open, so that nothing comes before the events.
  have hlost : batch.contextLost = false := (Bool.not_eq_true' batch.contextLost).mp hpolled
  have hkept : Window.releaseLost batch = (pure () : PreviewProcedure Unit) := by
    rw [Window.releaseLost, hlost]
    rfl
  rw [hkept, pure_bind] at hrest
  refine ⟨batch, rest, ?_⟩
  rcases path_bind_iff.mp hrest with
    ⟨fault, rfl, hfirst⟩ | ⟨_, w₁, first, later, rfl, hfirst, hlater⟩
  · obtain ⟨m₁, -, hfault, -⟩ := handlesAll_of_handleEvents hname hm hfirst hobliges
    cases hfault
  obtain ⟨hobliges₁, hobliges₂⟩ := List.forall_mem_append.mp hobliges
  obtain ⟨m₁, hevents, -, hm₁, hrunning₁⟩ := handlesAll_of_handleEvents hname hm hfirst hobliges₁
  rcases path_bind_iff.mp hlater with
    ⟨fault, rfl, hdrawing⟩ | ⟨count, w₂, drawing, last, rfl, hdrawing, hlast⟩
  · obtain ⟨r, m', hdraws, hm', hrunning', hresult⟩ := draws_of_refresh hm₁ hdrawing hobliges₂
    cases r with
    | ok _ => cases hresult
    | error fault =>
      cases hresult
      refine ⟨m', rfl, .failed hevents hdraws List.map_append, hm', ?_⟩
      exact hrunning'.trans hrunning₁
  · obtain ⟨hobliges₂, hobliges₃⟩ := List.forall_mem_append.mp hobliges₂
    obtain ⟨r, m', hdraws, hm', hrunning', hresult⟩ := draws_of_refresh hm₁ hdrawing hobliges₂
    cases r with
    | error fault => cases hresult
    | ok _ =>
      cases hresult
      obtain ⟨rfl, rfl, rfl⟩ := showing_of_present hlast hobliges₃
      refine ⟨m', rfl, ?_, hm', hrunning'.trans hrunning₁⟩
      rw [← List.append_assoc]
      exact .shown hevents hdraws List.map_append hm'.depicts

/-- A loop whose window does not go on ends at once. -/
theorem rounds_of_stopped (h : w.running = false) :
    Window.rounds (conduct name) refreshes w = .done (.ok ()) w := by
  obtain ⟨running, device, content⟩ := w
  obtain rfl : running = false := h
  cases refreshes <;> rfl

/-- **The loop** is the machine's. -/
theorem loops_of_rounds (hname : name ≠ inputName) (hm : m.Sound w) (hrunning : w.running = true)
    {result : Except Fault Unit}
    (hpath : Dialogue.Path (Window.rounds (conduct name) refreshes w) moments result w')
    (hobliges : ∀ x ∈ moments, obliges x.exchange = true) :
    ∃ m', Loops name refreshes m moments result m' ∧ m'.Sound w' := by
  -- From round to round it is `Sound` that is carried on; `Depicts` alone would not let a later
  -- program be drawn.
  induction refreshes generalizing m w moments with
  | zero =>
    rw [Window.rounds, path_state_bind, if_pos hrunning] at hpath
    cases hpath
    exact ⟨m, .exhausted, hm⟩
  | succ refreshes ih =>
    rw [Window.rounds, path_state_bind, if_pos hrunning] at hpath
    rcases path_bind_iff.mp hpath with
      ⟨fault, rfl, hround⟩ | ⟨_, w₁, first, second, rfl, hround, hrounds⟩
    · obtain ⟨batch, rest, m', rfl, hturn, hm', -⟩ := turn_of_round hname hm hround hobliges
      exact ⟨m', .failed hm.depicts hturn, hm'⟩
    · obtain ⟨hobliges₁, hobliges₂⟩ := List.forall_mem_append.mp hobliges
      obtain ⟨batch, rest, m₁, rfl, hturn, hm₁, hrunning₁⟩ :=
        turn_of_round hname hm hround hobliges₁
      rw [hrunning, Bool.true_and] at hrunning₁
      cases hcloses : batch.events.any closes with
      | true =>
        rw [hcloses] at hrunning₁
        rw [rounds_of_stopped hrunning₁] at hrounds
        cases hrounds
        rw [List.append_nil]
        exact ⟨m₁, .closed hm.depicts hturn hcloses, hm₁⟩
      | false =>
        rw [hcloses] at hrunning₁
        obtain ⟨m', hloops, hm'⟩ := ih hm₁ hrunning₁ hrounds hobliges₂
        exact ⟨m', .next hm.depicts hturn hcloses hloops, hm'⟩

/-- The loop ends in one of three ways: it is closed, its refreshes are used up, or the arithmetic
of a frame fails. -/
theorem Loops.fault {m' : Machine} {fault : Fault}
    (h : Loops name refreshes m moments (.error fault) m') :
    fault = .outOfRefreshes ∨ fault.IsArithmetic := by
  generalize hr : Except.error fault = r at h
  induction h with
  | exhausted =>
    cases hr
    exact .inl rfl
  | failed hw hturn =>
    cases hr
    cases hturn with
    | failed hevents hdraws hmoments => exact .inr hdraws.draws.isArithmetic
  | closed hw hturn hcloses => cases hr
  | next hw hturn hcloses hrest ih => exact ih hr

/-! ### The opening and the closing -/

/-- A device that is opened has the size of the settings and its context. -/
theorem leads_openDevice {σ : Type} {s : σ} {settings : WindowSettings} {render : RenderSettings} :
    Leads {} s (Window.openDevice settings render) (fun _ device s' =>
      device.view = settings.size ∧ device.hasContext = true ∧ s' = s) never := by
  have hrest : Leads {} s (do
      Platform.ask (.setAttribute .depthSize Window.depthBits)
      Platform.ask (.setAttribute .doubleBuffer 1)
      Platform.ask (.openDisplay settings.size settings.vsync)
      Platform.ask (.setCaption settings.title)
      Platform.ask .createContext : PlatformProcedure σ ContextInfo)
      (fun _ _ s' => s' = s) never := by
    refine Leads.bind (Leads.ask_plain rfl fun _ => Leads.bind (Leads.ask_plain rfl fun _ => ?_))
    refine Leads.bind (Leads.ask_plain rfl fun _ => Leads.bind (Leads.ask_plain rfl fun _ => ?_))
    exact Leads.ask_plain rfl fun _ => rfl
  have hdisplay : Leads {} s (Window.openDisplay settings) (fun _ _ s' => s' = s) never := by
    refine Leads.bind (Leads.ask_plain rfl fun ready => ?_)
    cases ready with
    | true => exact hrest
    | false => exact Leads.bind (Leads.ask_plain rfl fun _ => hrest)
  refine Leads.bind (Leads.attempt (hdisplay.mono ?_ nofun))
  rintro w₁ info s' rfl
  exact Leads.bind (Leads.tell (Leads.pure ⟨rfl, rfl, rfl⟩))

/-- What is **given back** before the platform is left. -/
def giveBack : PreviewProcedure Unit := do
  Window.onContent Session.stop
  Window.onDevice GlDevice.release

/-- Giving back is a matter of graphics alone. -/
theorem graphic_giveBack : Graphic giveBack :=
  Confined.bind graphic_onContent fun _ => confined_release.zoom

/-- Giving back always succeeds, and nothing is timed or rendered. -/
theorem leads_giveBack (hm : m.Sound w) :
    Leads {} w giveBack (fun w₁ _ _ => w₁ = {}) never := by
  refine Leads.bind (leads_onContent (Session.drives_stop hm.fits.listed fun d' hstays => ?_))
  exact Leads.zoom (leads_release fun _ => rfl)

/-- A fault that ends a loop passes on at the end of a window's life. -/
theorem leave_eq {r : Except Fault Unit}
    (hr : ∀ fault, r = .error fault → fault = .outOfRefreshes ∨ fault.IsArithmetic) :
    leave r = (do
      giveBack
      Platform.ask .quit
      ofExcept (r.map fun _ => Exit.ok)) := by
  have hclose : close = giveBack >>= fun _ => Platform.ask .quit := by
    rw [giveBack, bind_assoc]
    rfl
  have hpasses : leave r = close >>= fun _ => ofExcept (r.map fun _ => Exit.ok) := by
    rcases r with fault | _
    · rcases hr fault rfl with rfl | harithmetic
      · rfl
      · cases fault <;> first | rfl | exact harithmetic.elim
    · rfl
  rw [hpasses, hclose, bind_assoc]

/-- The end of a window's life gives everything back and leaves the platform. What the loop came to
is the outcome. -/
theorem closing_of_leave (hm : m.Sound w) {r : Except Fault Unit} {result : Except Fault Exit}
    (hr : ∀ fault, r = .error fault → fault = .outOfRefreshes ∨ fault.IsArithmetic)
    (hpath : Dialogue.Path (leave r w) moments result w')
    (hobliges : ∀ x ∈ moments, obliges x.exchange = true) :
    result = (r.map fun _ => .ok) ∧ ∃ given last, moments = given ++ [last] ∧
      last.exchange = ⟨.quit, .ok ()⟩ ∧ work (given.map Moment.exchange) = {} ∧
      ∀ x ∈ given, x.call.isGraphics = true := by
  rw [leave_eq hr] at hpath
  rcases path_bind_iff.mp hpath with ⟨fault, -, hgive⟩ | ⟨_, w₁, given, later, rfl, hgive, hlater⟩
  · exact ((leads_giveBack hm).path hgive hobliges).elim
  obtain ⟨hobliges₁, hobliges₂⟩ := List.forall_mem_append.mp hobliges
  have hwork : work (given.map Moment.exchange) = {} := (leads_giveBack hm).path hgive hobliges₁
  rcases path_ask_bind hlater with ⟨fault, rfl, -, -⟩ | ⟨_, rest, rfl, hrest⟩
  · cases hobliges₂ _ (.head _)
  · have hend : rest = [] ∧ result = r.map fun _ => .ok := by
      cases r with
      | ok _ =>
        cases hrest
        exact ⟨rfl, rfl⟩
      | error fault =>
        cases hrest
        exact ⟨rfl, rfl⟩
    obtain ⟨rfl, rfl⟩ := hend
    exact ⟨rfl, given, _, rfl, rfl, hwork, graphic_giveBack.path hgive⟩

/-! ### A run -/

section Run

variable {arguments : Arguments} {result : Except Fault Exit}

/-- The life of a window on a platform that obliges: a load, the loop, and a closing. -/
theorem loops_of_live (hname : name ≠ inputName) (hm : m.Sound w)
    (hpath : Dialogue.Path (live refreshes name text w) moments result w')
    (hobliges : ∀ x ∈ moments, obliges x.exchange = true) :
    ∃ first loop given last m₁ m' r, moments = first ++ (loop ++ (given ++ [last])) ∧
      m.Loads text (first.map Moment.exchange) m₁ ∧ Loops name refreshes m₁ loop r m' ∧
      last.exchange = ⟨.quit, .ok ()⟩ ∧ work (given.map Moment.exchange) = {} ∧
      (∀ x ∈ given, x.call.isGraphics = true) ∧ result = r.map fun _ => .ok := by
  rw [live_eq] at hpath
  obtain ⟨r, w₂, shown, closing, rfl, hshown, hclosing⟩ := path_attempt_bind_iff.mp hpath
  obtain ⟨hobliges, hobliges₃⟩ := List.forall_mem_append.mp hobliges
  rcases path_bind_iff.mp hshown with ⟨fault, rfl, hload⟩ | ⟨_, w₁, first, loop, rfl, hload, hloop⟩
  · obtain ⟨m₁, -, hfault, -⟩ := loads_of_load hm hload hobliges
    cases hfault
  obtain ⟨hobliges₁, hobliges₂⟩ := List.forall_mem_append.mp hobliges
  obtain ⟨m₁, hloads, -, hm₁, -⟩ := loads_of_load hm hload hobliges₁
  rw [Window.run, Window.setRunning, path_update_bind] at hloop
  have hrunning : m₁.Sound { w₁ with running := true } := ⟨hm₁.view_eq, hm₁.fits⟩
  obtain ⟨m', hloops, hm'⟩ := loops_of_rounds hname hrunning rfl hloop hobliges₂
  have hr : ∀ fault, r = .error fault → fault = .outOfRefreshes ∨ fault.IsArithmetic := by
    rintro fault rfl
    exact hloops.fault
  obtain ⟨hresult, given, last, rfl, hlast, hwork, hgraphics⟩ :=
    closing_of_leave hm' hr hclosing hobliges₃
  exact ⟨first, loop, given, last, m₁, m', r, List.append_assoc _ _ _, hloads, hloops, hlast, hwork,
    hgraphics, hresult⟩

/-- **On a platform that obliges a preview of a file is the machine's**. Its moments are those of an
opening, a load, the loop of the machine and a closing, and the loop's result is the outcome. -/
theorem runs_of_run {moments : List (Moment Platform (Option PreviewWindow))}
    {final : Option PreviewWindow} (hname : arguments.bundle ≠ inputName)
    (hlevel : arguments.level.isSome = true)
    (hpath : Dialogue.Path (run refreshes arguments none) moments result final)
    (hobliges : ∀ x ∈ moments, obliges x.exchange = true) :
    Runs refreshes arguments moments result := by
  rw [run_eq_of_level hlevel, readBundle_eq, readBytes, if_neg hname, attempt_bind_ofExcept,
    bind_assoc] at hpath
  obtain ⟨reply, later, rfl, hlater⟩ := path_ask_attempt_bind hpath
  obtain ⟨hreply, hsince⟩ := List.forall_mem_cons.mp hobliges
  rcases textOf_of_obliges hreply with ⟨fault, rfl⟩ | ⟨bytes, text, rfl, htext⟩
  · cases hlater with
    | tell hlater =>
      cases hlater
      exact .unread
  have hread : ((.ok bytes : Except Fault (List UInt8)) >>= fun bytes => textOf (.ok bytes)) =
      .ok text := htext
  rw [hread, pure_bind, proceed, openWindow] at hlater
  obtain ⟨opened, none', opening, shown, rfl, hopening, hshown⟩ := path_attempt_bind_iff.mp hlater
  obtain ⟨hobliges₁, hobliges₂⟩ := List.forall_mem_append.mp hsince
  have hopened := leads_openDevice.path hopening hobliges₁
  rcases opened with fault | device
  · exact hopened.elim
  obtain ⟨hview, hcontext, rfl⟩ := hopened
  obtain ⟨moments, final', rfl, rfl, hlive⟩ := path_mapState_iff.mp hshown
  have hm : Machine.Sound { view := arguments.size } { device, content := {} } := by
    refine ⟨hview, ⟨⟨rfl, rfl, rfl, rfl⟩, rfl, hcontext, ?_, ?_⟩⟩
    · rintro _ ⟨⟩
    · rintro _ ⟨⟩
  obtain ⟨first, loop, given, last, m₁, m', r, rfl, hloads, hloops, hlast, hwork, hgiven, rfl⟩ :=
    loops_of_live hname hm hlive (List.forall_mem_map.mp hobliges₂)
  exact .shown htext (confined_openDevice.path hopening) hloads hloops hwork hgiven hlast

/-- The file's text is **spoilt**, and the reload key is pressed. Then the file's program is turned
down, and it is reloaded after the escape key. -/
def spoilingRounds : List Round := [
  { files := [(Path.ofString "b.glsl", some "none".toUTF8.toList)]
    events := [.keyDown reloadKey, .resize 640 480] },
  { files := [(Path.ofString "b.glsl", some (Session.bareBundle ++ "#error").toUTF8.toList)]
    events := [.keyDown .escape, .keyDown reloadKey] }]

/-- A preview goes on after a text that cannot be taken apart, and shows nothing after a program
that was turned down: of **two rounds** only the first is presented. -/
theorem runs_of_run_spoilt :
    Runs 3 { bundle := "b.glsl" } (fileRun Session.bareBundle.toUTF8.toList spoilingRounds).moments
      (fileRun Session.bareBundle.toUTF8.toList spoilingRounds).result ∧
    (fileRun Session.bareBundle.toUTF8.toList spoilingRounds).result = .ok .ok ∧
    ((fileRun Session.bareBundle.toUTF8.toList spoilingRounds).moments.map (·.call)).count .flip =
      1 := by
  have hcomputed : (∀ x ∈ (fileRun Session.bareBundle.toUTF8.toList spoilingRounds).moments,
        obliges x.exchange = true) ∧
      (fileRun Session.bareBundle.toUTF8.toList spoilingRounds).result = .ok .ok ∧
      ((fileRun Session.bareBundle.toUTF8.toList spoilingRounds).moments.map (·.call)).count .flip =
        1 := by
    decide +kernel
  exact ⟨runs_of_run (by decide) rfl (Dialogue.path_run _ _ _) hcomputed.1, hcomputed.2⟩

/-- The window becomes **too wide for a double**. -/
def widestRound : Round := { events := [.resize Ratio.limit 1] }

/-- A view that is too wide **ends the loop**: nothing is presented, although there is a picture. -/
theorem widest_not_shown :
    (∀ x ∈ (fileRun Session.bareBundle.toUTF8.toList [widestRound]).moments,
      obliges x.exchange = true) ∧
    (∃ x ∈ (fileRun Session.bareBundle.toUTF8.toList [widestRound]).moments,
      x.call = .setContextViewport (.pixels Ratio.limit 1) ∧
        (x.state.map fun w => w.content.rendering) = some true) ∧
    (fileRun Session.bareBundle.toUTF8.toList [widestRound]).result =
      .error .quotientTooLarge ∧
    ((fileRun Session.bareBundle.toUTF8.toList [widestRound]).moments.map (·.call)).count .flip =
      0 := by
  decide +kernel

end Run

end ShaderPreview.Preview
