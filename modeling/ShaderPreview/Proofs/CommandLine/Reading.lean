import ShaderPreview.Proofs.CommandLine.Leaving
import ShaderPreview.Proofs.Window.Loop

/-!
# Files That Give No Text

A file is read at two places of a preview: once before there is a window, and again at each press of
the reload key. A read gives no text if the file cannot be read, or if its bytes are not text. Only
the first of these is provided for. A preview then ends as one with bad input, or its window goes on
as if nothing had happened. Bytes that are not text are a fault that passes through the key, the
loop and the end of the window.

Nothing else looks outside, so that a path can be cut where a file is read. What comes after it is a
path through what is made of the file and through the rest of the run.

## Main definitions

* `Preview.textOf`, `Preview.Unread`: the text that a read gives, and why there is none.
* `Preview.reread`: what is made of a file that was read again.
* `Preview.leave`: the end of a window's life.
* `Preview.endUnread`, `Preview.goOnUnread`: what is left of a run after a read that gives no text.

## Main results

* `Preview.rereads_of_rounds`: a read in the loop comes of the reload key.
* `Preview.goesOn_of_openWindow`: the rest of a run after a read in the loop.
* `Preview.unread_ends_or_goes_on`: what a preview makes of reads that give no text.
-/

namespace ShaderPreview

open Procedure Platform GlDevice

/-! ### Looking outside -/

namespace Platform

/-- Whether a call **looks outside**: at the events or at a file. -/
def Call.looksOut : Platform.Call → Bool
  | .pollEvents => true
  | .readFile _ => true
  | _ => false

/-- The **events** that an exchange gives. -/
def polled? : Exchange Platform → Option EventBatch
  | ⟨.pollEvents, .ok batch⟩ => some batch
  | _ => none

/-- The **latest batch** of events. -/
def latestBatch (past : List (Exchange Platform)) : Option EventBatch :=
  (past.filterMap polled?).getLast?

/-- What came earlier does not matter once there was a batch. -/
theorem latestBatch_prepend {earlier past : List (Exchange Platform)} {batch : EventBatch}
    (h : latestBatch past = some batch) : latestBatch (earlier ++ past) = some batch := by
  rw [latestBatch] at h
  rw [latestBatch, List.filterMap_append, List.getLast?_append, h]
  rfl

/-- What gives no events leaves the latest batch as it is. -/
theorem latestBatch_append {past since : List (Exchange Platform)}
    (h : ∀ x ∈ since, polled? x = none) : latestBatch (past ++ since) = latestBatch past := by
  rw [latestBatch, List.filterMap_append, List.filterMap_eq_nil_iff.mpr h, List.append_nil,
    latestBatch]

/-- A call that does not look outside gives no events. -/
theorem polled?_of_looksOut {x : Exchange Platform} (h : x.call.looksOut = false) :
    polled? x = none := by
  obtain ⟨call, reply⟩ := x
  cases call <;> first | rfl | cases h

/-- A path that does not look outside leaves the latest batch as it is. -/
theorem latestBatch_append_moments {σ : Type} {past : List (Exchange Platform)}
    {moments : List (Moment Platform σ)} (h : ∀ m ∈ moments, m.call.looksOut = false) :
    latestBatch (past ++ moments.map Moment.exchange) = latestBatch past :=
  latestBatch_append (List.forall_mem_map.mpr fun m hm => polled?_of_looksOut (h m hm))

/-- Events that have just been given are the latest batch. -/
theorem latestBatch_polled {past : List (Exchange Platform)} {batch : EventBatch} :
    latestBatch (past ++ [⟨.pollEvents, .ok batch⟩]) = some batch := by
  simp [latestBatch, polled?, List.filterMap_append]

end Platform

/-- A procedure that **does not look outside**. -/
abbrev Inward {σ α : Type} (p : PlatformProcedure σ α) : Prop :=
  Confined (fun call : Platform.Call => call.looksOut = false) p

/-- To ask for graphics is not to look outside. -/
theorem looksOut_of_isGraphics {call : Platform.Call} (h : call.isGraphics = true) :
    call.looksOut = false := by
  cases call <;> first | rfl | cases h

namespace Preview

variable {name text : String}

/-- What a device asks of the graphics does not look outside. -/
theorem inward_onDevice {α : Type} {p : GlProcedure α} (hp : Graphic p) :
    Inward (Window.onDevice p : PreviewProcedure α) :=
  (hp.widen fun _ => looksOut_of_isGraphics).zoom

/-- Whatever a session does, it does not look outside. -/
theorem inward_onContent {α : Type} {p : DeviceProcedure Session α} : Inward (Window.onContent p) :=
  graphic_onContent.widen fun _ => looksOut_of_isGraphics

/-- A load does not look outside: the text is there already. -/
theorem inward_load : Inward (load text) := keeps_load inward_onContent

/-! ### Reading again -/

/-- **The text that a read gives**, or why there is none. -/
def textOf (reply : Except Fault (List UInt8)) : Except Fault String := do
  let bytes ← reply
  let text ← (Utf8.decode bytes).mapError .undecodable
  return String.ofList (Text.normalizeNewlines text.toList)

/-- Bytes give the text that they decode to. -/
theorem textOf_ok {bytes : List UInt8} : textOf (.ok bytes) = (do
    let text ← (Utf8.decode bytes).mapError .undecodable
    return String.ofList (Text.normalizeNewlines text.toList)) := rfl

/-- Giving a lost context up does not look outside. -/
theorem inward_releaseLost {batch : EventBatch} :
    Inward (Window.releaseLost batch : PreviewProcedure Unit) := by
  rw [Window.releaseLost]
  by_cases hlost : batch.contextLost = true
  · rw [if_pos hlost]
    exact inward_onDevice confined_release
  · rw [if_neg hlost]
    exact confined_pure

/-- Showing what was drawn does not look outside. -/
theorem inward_present {count : Nat} : Inward (Window.present (conduct name) count) := by
  rw [Window.present]
  by_cases hcount : (count != 0) = true
  · rw [if_pos hcount]
    exact Confined.bind (confined_perform rfl) fun _ => confined_perform rfl
  · rw [if_neg hcount]
    exact confined_perform rfl

/-- What is made of a file that was **read again**. -/
def reread (name : String) (reply : Except Fault (List UInt8)) : PreviewProcedure Unit :=
  match textOf reply with
  | .error (.file fault) => tell (.cannotReload name (.file fault))
  | .error fault => fail fault
  | .ok text => do
    tell (.reloading name)
    load text

/-- Once the file is read nothing else is read on its behalf. -/
theorem inward_reread {reply : Except Fault (List UInt8)} : Inward (reread name reply) := by
  rw [reread]
  rcases textOf reply with fault | text
  · cases fault with
    | file fault => exact confined_tell
    | _ => exact confined_fail
  · exact Confined.bind confined_tell fun _ => inward_load

/-- The first read gives the text of the bytes, as a read in the loop does. -/
theorem readBundle_eq {σ : Type} :
    (readBundle name : PlatformProcedure σ String) =
      readBytes name >>= fun bytes => ofExcept (textOf (.ok bytes)) := by
  rw [readBundle]
  congr 1
  funext bytes
  rw [textOf_ok]
  cases Utf8.decode bytes <;> rfl

/-- To read again is to ask for the file once and go on with what comes of it. -/
theorem reload_eq (hname : name ≠ inputName) :
    reload name = (Platform.ask (.readFile (Path.ofString name))).attempt >>= reread name := by
  rw [reload, readBundle_eq, readBytes, if_neg hname, attempt_bind_ofExcept, bind_assoc]
  rfl

/-- An event that is not the reload key's does not look outside. -/
theorem inward_handleEvent {event : WindowEvent}
    (hevent : event ≠ .keyDown reloadKey ∨ name = inputName) :
    Inward (Window.handleEvent (conduct name) event) := by
  cases event with
  | quit => exact confined_update
  | resize width height => exact inward_onDevice graphic_setViewport
  | keyUp key => exact confined_pure
  | keyDown key =>
    have hkey : (conduct name).onKey key = none := by
      rw [conduct]
      rcases hevent with hevent | rfl
      · have hne : key ≠ reloadKey := fun h => hevent (h ▸ rfl)
        simp [hne]
      · simp
    rw [Window.handleEvent, hkey]
    by_cases hescape : key = .escape
    · rw [if_pos hescape]
      exact Confined.bind confined_update fun _ => confined_pure
    · rw [if_neg hescape]
      exact confined_pure

/-- The reload key reads the file again. -/
theorem handleEvent_reloadKey (hname : name ≠ inputName) :
    Window.handleEvent (conduct name) (.keyDown reloadKey) =
      (Platform.ask (.readFile (Path.ofString name))).attempt >>= reread name := by
  have hkey : (conduct name).onKey reloadKey = some (reload name) := by
    simp [conduct, hname]
  rw [← reload_eq hname, Window.handleEvent, hkey, if_neg (by decide)]

/-! ### Where a file is read -/

/-- A read that is made **in the loop** comes of the reload key, in the latest batch of events. From
there on the path goes through what is made of the file, and through the rest of the loop. -/
def Rereads (name : String) (past : List (Exchange Platform)) (w : PreviewWindow)
    (reply : Except Fault (List UInt8)) (after : List (Moment Platform PreviewWindow))
    (result : Except Fault Unit) (final : PreviewWindow) : Prop :=
  ∃ batch handled rest refreshes, latestBatch past = some batch ∧
    batch.events = handled ++ .keyDown reloadKey :: rest ∧
      Dialogue.Path ((reread name reply >>= fun _ => Window.resume (conduct name) rest refreshes) w)
        after result final

section Place

variable {w : PreviewWindow} {path : ShaderPreview.Path} {reply : Except Fault (List UInt8)}
  {before after : List (Moment Platform PreviewWindow)} {result : Except Fault Unit}
  {final s : PreviewWindow} {past : List (Exchange Platform)} {refreshes : Nat}

/-- A read among the events that are left of a batch comes of the reload key, if one in the rounds
after them does. -/
theorem rereads_of_resume
    (ih : ∀ {past w before}, Dialogue.Path (Window.rounds (conduct name) refreshes w)
      (before ++ ⟨s, .readFile path, reply⟩ :: after) result final →
        Rereads name (past ++ before.map Moment.exchange) s reply after result final)
    {batch : EventBatch} {handled events : List WindowEvent}
    (hevents : batch.events = handled ++ events) (hlatest : latestBatch past = some batch)
    (h : Dialogue.Path (Window.resume (conduct name) events refreshes w)
      (before ++ ⟨s, .readFile path, reply⟩ :: after) result final) :
    Rereads name (past ++ before.map Moment.exchange) s reply after result final := by
  have hreads : ¬(Platform.Call.readFile path).looksOut = false := Bool.noConfusion
  induction events generalizing handled past w before with
  | nil =>
    rw [Window.resume_nil] at h
    have hrefresh : Inward (conduct name).refresh := inward_onContent
    obtain ⟨count, w₁, first, before, rfl, -, h⟩ := hrefresh.path_bind hreads h
    obtain ⟨-, w₂, second, before, rfl, -, h⟩ := inward_present.path_bind hreads h
    simp only [List.map_append, ← List.append_assoc]
    exact ih h
  | cons event rest ihrest =>
    rw [Window.resume_cons] at h
    by_cases hevent : event ≠ .keyDown reloadKey ∨ name = inputName
    · obtain ⟨-, w₁, first, before, rfl, hfirst, h⟩ :=
        (inward_handleEvent hevent).path_bind hreads h
      rw [List.map_append, ← List.append_assoc]
      have hevents' : batch.events = (handled ++ [event]) ++ rest := by simpa using hevents
      refine ihrest hevents' ?_ h
      rw [latestBatch_append_moments hfirst]
      exact hlatest
    · obtain ⟨rfl, hname⟩ : event = .keyDown reloadKey ∧ name ≠ inputName := by
        simpa [not_or] using hevent
      rw [handleEvent_reloadKey hname, bind_assoc] at h
      obtain ⟨reply', rest', he, h⟩ := path_ask_attempt_bind h
      cases before with
      | nil =>
        obtain ⟨hm, rfl⟩ := List.cons.inj he
        cases hm
        exact ⟨batch, handled, rest, refreshes, by simpa using hlatest, hevents, h⟩
      | cons m before =>
        obtain ⟨rfl, rfl⟩ := List.cons.inj he
        obtain ⟨-, w₂, first, before, rfl, hfirst, h⟩ := inward_reread.path_bind hreads h
        rw [List.map_cons, List.map_append, List.append_cons, ← List.append_assoc]
        have hevents' : batch.events = (handled ++ [.keyDown reloadKey]) ++ rest := by
          simpa using hevents
        refine ihrest hevents' ?_ h
        rw [latestBatch_append_moments hfirst,
          latestBatch_append (List.forall_mem_singleton.mpr rfl)]
        exact hlatest

/-- A read in the loop comes of the reload key. The induction is on the number of refreshes, and
within a round on the events that are left. -/
theorem rereads_of_rounds
    (h : Dialogue.Path (Window.rounds (conduct name) refreshes w)
      (before ++ ⟨s, .readFile path, reply⟩ :: after) result final) :
    Rereads name (past ++ before.map Moment.exchange) s reply after result final := by
  have hreads : ¬(Platform.Call.readFile path).looksOut = false := Bool.noConfusion
  induction refreshes generalizing past w before with
  | zero =>
    have hnothing : Inward (Window.rounds (conduct name) 0) := by
      refine confined_state_bind fun w => ?_
      by_cases hrunning : w.running = true
      · rw [if_pos hrunning]
        exact confined_fail
      · rw [if_neg hrunning]
        exact confined_pure
    exact absurd (hnothing.path h _ (List.mem_append_right _ (.head _))) hreads
  | succ refreshes ih =>
    rw [Window.rounds_succ, path_state_bind] at h
    by_cases hrunning : w.running = true
    · rw [if_pos hrunning] at h
      rcases path_ask_bind h with ⟨fault, he, -, -⟩ | ⟨batch, rest, he, h⟩
      · cases before with
        | nil => cases (List.cons.inj he).1
        | cons m before => exact absurd (List.cons.inj he).2 (by simp)
      · cases before with
        | nil => cases (List.cons.inj he).1
        | cons m before =>
          obtain ⟨rfl, rfl⟩ := List.cons.inj he
          obtain ⟨-, w₁, first, before, rfl, hfirst, h⟩ := inward_releaseLost.path_bind hreads h
          rw [List.map_cons, List.map_append, List.append_cons, ← List.append_assoc]
          have hlatest : latestBatch (past ++ [⟨.pollEvents, .ok batch⟩] ++
              first.map Moment.exchange) = some batch := by
            rw [latestBatch_append_moments hfirst, latestBatch_polled]
          exact rereads_of_resume ih (List.nil_append batch.events).symm hlatest h
    · rw [if_neg hrunning] at h
      have hnothing : Inward (pure () : PreviewProcedure Unit) := confined_pure
      exact absurd (hnothing.path h _ (List.mem_append_right _ (.head _))) hreads

end Place

/-! ### A window and its end -/

/-- **The end of a window's life**: it is given up for want of a device, and it is closed in any
case. -/
def leave (result : Except Fault Unit) : PreviewProcedure Exit :=
  ((ofExcept result >>= fun _ => pure Exit.ok).handle givingUp).ensuring close

/-- The life of a window is what is done in it, and its end. -/
theorem live_eq {refreshes : Nat} :
    live refreshes name text =
      (load text >>= fun _ => Window.run (conduct name) refreshes).attempt >>= leave := by
  have hend : ∀ p : PreviewProcedure Unit,
      ((p >>= fun _ => pure Exit.ok).handle givingUp).ensuring close = p.attempt >>= leave := by
    intro p
    funext w
    simp only [leave, ensuring, attempt, handle, bind_apply, Dialogue.follow_assoc]
    refine congrArg (Dialogue.follow (p w)) (funext₂ fun r w => ?_)
    cases r <;> rfl
  rw [live, showUntilClosed, ← bind_assoc, hend]

/-- Giving a window up does not look outside. -/
theorem inward_givingUp {fault : Fault} : Inward (givingUp fault : PreviewProcedure Exit) :=
  keeps_givingUp

/-- The end of a window's life does not look outside. -/
theorem inward_leave {result : Except Fault Unit} : Inward (leave result) := by
  have hgive : Inward ((ofExcept result >>= fun _ => pure Exit.ok).handle givingUp :
      PreviewProcedure Exit) :=
    Honours.handle (Honours.bind keeps_ofExcept fun _ => confined_pure) fun _ => inward_givingUp
  have hclose : Inward close :=
    inward_onContent.bind fun _ => (inward_onDevice confined_release).bind fun _ =>
      confined_perform rfl
  exact hgive.attempt.bind fun _ => hclose.bind fun _ => keeps_ofExcept

section Live

variable {w final s : PreviewWindow} {path : ShaderPreview.Path}
  {reply : Except Fault (List UInt8)} {before after : List (Moment Platform PreviewWindow)}
  {result : Except Fault Exit} {refreshes : Nat}

/-- What passes after a read **in the loop**: what is made of the file, the rest of the loop, and
the end of the window's life. -/
def GoesOn (name : String) (before : List (Exchange Platform)) (w : PreviewWindow)
    (reply : Except Fault (List UInt8)) (after : List (Moment Platform PreviewWindow))
    (result : Except Fault Exit) (final : PreviewWindow) : Prop :=
  ∃ batch handled rest refreshes, latestBatch before = some batch ∧
    batch.events = handled ++ .keyDown reloadKey :: rest ∧
      Dialogue.Path (((reread name reply >>= fun _ =>
        Window.resume (conduct name) rest refreshes).attempt >>= leave) w) after result final

/-- How it goes on does not depend on what came before the latest batch. -/
theorem GoesOn.prepend {past : List (Exchange Platform)} {w : PreviewWindow}
    (h : GoesOn name past w reply after result final) (earlier : List (Exchange Platform)) :
    GoesOn name (earlier ++ past) w reply after result final := by
  obtain ⟨batch, handled, rest, refreshes, hlatest, hevents, hpath⟩ := h
  exact ⟨batch, handled, rest, refreshes, latestBatch_prepend hlatest, hevents, hpath⟩

/-- In the life of a window only the loop reads. -/
theorem goesOn_of_live
    (h : Dialogue.Path (live refreshes name text w) (before ++ ⟨s, .readFile path, reply⟩ :: after)
      result final) :
    GoesOn name (before.map Moment.exchange) s reply after result final := by
  have hreads : ¬(Platform.Call.readFile path).looksOut = false := Bool.noConfusion
  rw [live_eq] at h
  obtain ⟨r, w₁, first, second, he, hfirst, hsecond⟩ := path_attempt_bind_iff.mp h
  rcases exists_append_of_append_cons he.symm with ⟨since, rfl, rfl⟩ | ⟨before, rfl, rfl⟩
  · obtain ⟨-, w₂, shown, before, rfl, -, hloop⟩ := inward_load.path_bind hreads hfirst
    rw [Window.run, Window.setRunning, path_update_bind] at hloop
    have hrereads : Rereads name (shown.map Moment.exchange ++ before.map Moment.exchange) s reply
        since r w₁ := rereads_of_rounds hloop
    obtain ⟨batch, handled, rest, refreshes, hlatest, hevents, hrest⟩ := hrereads
    rw [← List.map_append] at hlatest
    exact ⟨batch, handled, rest, refreshes, hlatest, hevents,
      path_attempt_bind_iff.mpr ⟨r, w₁, since, second, rfl, hrest, hsecond⟩⟩
  · exact absurd (inward_leave.path hsecond _ (List.mem_append_right _ (.head _))) hreads

end Live

/-! ### The whole run -/

/-- **Why a read gives no text**: the file cannot be read, or its bytes are not text. -/
inductive Unread : Except Fault (List UInt8) → Fault → Prop
  | file (fault : FileFault) : Unread (.error (.file fault)) (.file fault)
  | undecodable {bytes : List UInt8} {fault : Utf8.Fault} (h : Utf8.decode bytes = .error fault) :
      Unread (.ok bytes) (.undecodable fault)

/-- A read that gives no text has the fault of that as its text. -/
theorem Unread.textOf_eq {reply : Except Fault (List UInt8)} {fault : Fault}
    (h : Unread reply fault) : textOf reply = .error fault := by
  cases h with
  | file fault => rfl
  | @undecodable bytes fault h =>
    rw [textOf_ok, h]
    rfl

/-- Whether a call belongs to the **opening** of a window, or gives it up. -/
def opens : Platform.Call → Bool
  | .createContext => true
  | .quit => true
  | call => call.prepares

/-- Opening a window makes no other calls. -/
theorem confined_openDevice {σ : Type} {settings : WindowSettings} {render : RenderSettings} :
    Confined (fun call : Platform.Call => opens call = true)
      (Window.openDevice settings render : PlatformProcedure σ GlDevice) := by
  have hrest : Confined (fun call : Platform.Call => opens call = true) (do
        Platform.ask (.setAttribute .depthSize Window.depthBits)
        Platform.ask (.setAttribute .doubleBuffer 1)
        Platform.ask (.openDisplay settings.size settings.vsync)
        Platform.ask (.setCaption settings.title)
        Platform.ask .createContext : PlatformProcedure σ ContextInfo) := by
    refine Confined.bind (confined_perform rfl) fun _ => ?_
    refine Confined.bind (confined_perform rfl) fun _ => ?_
    refine Confined.bind (confined_perform rfl) fun _ => ?_
    exact Confined.bind (confined_perform rfl) fun _ => confined_perform rfl
  have hdisplay : Confined (fun call : Platform.Call => opens call = true)
      (Window.openDisplay settings : PlatformProcedure σ ContextInfo) := by
    refine Confined.bind (confined_perform rfl) fun ready => ?_
    cases ready with
    | true => exact hrest
    | false => exact Confined.bind (confined_perform rfl) fun _ => hrest
  refine hdisplay.attempt.bind fun r => ?_
  cases r with
  | ok info => exact Confined.bind confined_tell fun _ => confined_pure
  | error fault => exact Confined.bind (confined_perform rfl) fun _ => confined_fail

/-- Opening a device does not look outside. -/
theorem inward_openDevice {σ : Type} {settings : WindowSettings} {render : RenderSettings} :
    Inward (Window.openDevice settings render : PlatformProcedure σ GlDevice) :=
  confined_openDevice.widen fun call hcall => by
    cases call <;> first | rfl | cases hcall

section Run

variable {path : ShaderPreview.Path} {reply : Except Fault (List UInt8)} {fault : Fault}
  {s final : Option PreviewWindow} {before after : List (Moment Platform (Option PreviewWindow))}
  {result : Except Fault Exit} {refreshes : Nat} {arguments : Arguments}

/-- Once there is a first text only the loop of its window reads. -/
theorem goesOn_of_openWindow
    (h : Dialogue.Path (openWindow refreshes arguments text none)
      (before ++ ⟨s, .readFile path, reply⟩ :: after) result final) :
    ∃ w after' final', s = some w ∧ final = some final' ∧
      after = after'.map (fun m => ⟨some m.state, m.call, m.reply⟩) ∧
      GoesOn arguments.bundle (before.map Moment.exchange) w reply after' result final' := by
  have hreads : ¬(Platform.Call.readFile path).looksOut = false := Bool.noConfusion
  rw [openWindow] at h
  obtain ⟨device, none', opened, before, rfl, -, h⟩ :=
    inward_openDevice.attempt.path_bind hreads h
  cases device with
  | error fault =>
    have hgive : Inward (givingUp fault : PlatformProcedure (Option PreviewWindow) Exit) :=
      keeps_givingUp
    exact absurd (hgive.path h _ (List.mem_append_right _ (.head _))) hreads
  | ok device =>
    obtain ⟨moments, final', hmoments, rfl, hlive⟩ := path_mapState_iff.mp h
    obtain ⟨before', rest, rfl, rfl, hrest⟩ := List.map_eq_append_iff.mp hmoments.symm
    obtain ⟨⟨w, call, reply'⟩, after', rfl, hm, rfl⟩ := List.map_eq_cons_iff.mp hrest
    cases hm
    have hgoes := (goesOn_of_live hlive).prepend (opened.map Moment.exchange)
    rw [List.map_append, List.map_map]
    exact ⟨w, after', final', rfl, rfl, rfl, hgoes⟩

/-- How a preview ends whose **first read** gives no text: a file that cannot be read is bad input,
and bytes that are not text are a fault that nobody handles. -/
def endUnread : Fault → Except Fault Exit
  | .file _ => .ok .badInput
  | fault => .error fault

/-- How the life of a window goes on where a read **in the loop** gives no text: after a file that
cannot be read with the events that are left, and after bytes that are not text with the end. -/
def goOnUnread (name : String) (rest : List WindowEvent) (refreshes : Nat) :
    Fault → PreviewProcedure Exit
  | .file _ => (Window.resume (conduct name) rest refreshes).attempt >>= leave
  | fault => do
    close
    fail fault

/-- Without a text nothing is done about the window before it goes on. -/
theorem goesOn_unread {name : String} {past : List (Exchange Platform)} {w final : PreviewWindow}
    {after : List (Moment Platform PreviewWindow)} (hunread : Unread reply fault)
    (h : GoesOn name past w reply after result final) :
    ∃ batch handled rest refreshes, latestBatch past = some batch ∧
      batch.events = handled ++ .keyDown reloadKey :: rest ∧
        Dialogue.Path (goOnUnread name rest refreshes fault w) after result final := by
  obtain ⟨batch, handled, rest, refreshes, hlatest, hevents, hpath⟩ := h
  refine ⟨batch, handled, rest, refreshes, hlatest, hevents, ?_⟩
  rw [reread, hunread.textOf_eq] at hpath
  cases hunread with
  | file fault =>
    cases hpath with
    | tell hpath => exact hpath
  | undecodable h => exact hpath

/-- What a preview makes of its **first text**. -/
def proceed (refreshes : Nat) (arguments : Arguments) :
    Except Fault String → PlatformProcedure (Option PreviewWindow) Exit
  | .error (.file fault) => do
    tell (.cannotRead arguments.bundle (.file fault))
    return .badInput
  | .error fault => fail fault
  | .ok text => openWindow refreshes arguments text

/-- Without a first text nothing is read any more. -/
theorem inward_proceed_error : Inward (proceed refreshes arguments (.error fault)) := by
  cases fault with
  | file fault => exact Confined.bind confined_tell fun _ => confined_pure
  | _ => exact confined_fail

/-- With a level that is known the run is the first read and what is made of it. -/
theorem run_eq_of_level (hlevel : arguments.level.isSome = true) :
    run refreshes arguments =
      (readBundle arguments.bundle).attempt >>= proceed refreshes arguments := by
  have hnone : ¬arguments.level.isNone = true := by
    rw [Option.isNone_eq_false_iff.mpr hlevel]
    exact Bool.noConfusion
  rw [run, if_neg hnone]
  refine congrArg ((readBundle arguments.bundle).attempt >>= ·) (funext fun r => ?_)
  rcases r with fault | text
  · cases fault <;> rfl
  · rfl

/-- **A preview of a file** makes of each read that gives no text what can be made of it. Its first
moment is a read. If that one gives no text the preview ends there, without a window. Every other
read comes of the reload key, in the latest batch of events. If it gives no text the window goes on
as it stands where the file cannot be read, and it is closed where the bytes are not text. -/
theorem unread_ends_or_goes_on {moments : List (Moment Platform (Option PreviewWindow))}
    (hname : arguments.bundle ≠ inputName) (hlevel : arguments.level.isSome = true)
    (hpath : Dialogue.Path (run refreshes arguments none) moments result final) :
    (∃ reply later, moments = ⟨none, .readFile (Path.ofString arguments.bundle), reply⟩ :: later ∧
      ∀ fault, Unread reply fault → later = [] ∧ final = none ∧ result = endUnread fault) ∧
    ∀ before s path reply after fault, moments = before ++ ⟨s, .readFile path, reply⟩ :: after →
      before ≠ [] → Unread reply fault →
        ∃ w after' final', s = some w ∧ final = some final' ∧
          after = after'.map (fun m => ⟨some m.state, m.call, m.reply⟩) ∧
          ∃ batch handled rest refreshes,
            latestBatch (before.map Moment.exchange) = some batch ∧
            batch.events = handled ++ .keyDown reloadKey :: rest ∧
            Dialogue.Path (goOnUnread arguments.bundle rest refreshes fault w) after' result
              final' := by
  rw [run_eq_of_level hlevel, readBundle_eq, readBytes, if_neg hname, attempt_bind_ofExcept,
    bind_assoc] at hpath
  obtain ⟨first, later, rfl, hlater⟩ := path_ask_attempt_bind hpath
  constructor
  · refine ⟨first, later, rfl, fun fault hunread => ?_⟩
    have htext : (first >>= fun bytes => textOf (.ok bytes)) = .error fault := hunread.textOf_eq
    rw [htext] at hlater
    cases hunread with
    | file fault =>
      cases hlater with
      | tell hlater =>
        cases hlater
        exact ⟨rfl, rfl, rfl⟩
    | undecodable h =>
      cases hlater
      exact ⟨rfl, rfl, rfl⟩
  · intro before s path reply after fault he hne hunread
    cases before with
    | nil => exact absurd rfl hne
    | cons m before =>
      obtain ⟨rfl, rfl⟩ := List.cons.inj he
      rcases htext : first >>= fun bytes => textOf (.ok bytes) with fault' | text
      · rw [htext] at hlater
        have hreads : ¬(Platform.Call.readFile path).looksOut = false := Bool.noConfusion
        exact absurd (inward_proceed_error.path hlater _ (List.mem_append_right _ (.head _))) hreads
      · rw [htext] at hlater
        obtain ⟨w, after', final', rfl, rfl, rfl, hgoes⟩ := goesOn_of_openWindow hlater
        have hafter := goesOn_unread hunread (hgoes.prepend [⟨_, first⟩])
        exact ⟨w, after', final', rfl, rfl, rfl, hafter⟩

/-- Whether an exchange is a read that gives **no text**. -/
def givesNoText : Exchange Platform → Bool
  | ⟨.readFile _, .error (.file _)⟩ => true
  | ⟨.readFile _, .ok bytes⟩ => !(Utf8.decode bytes).isOk
  | _ => false

/-- Where a read gives no text there is a reason. -/
theorem unread_of_givesNoText (h : givesNoText ⟨.readFile path, reply⟩ = true) :
    ∃ fault, Unread reply fault := by
  rcases reply with fault | bytes
  · cases fault with
    | file fault => exact ⟨_, .file fault⟩
    | _ => cases h
  · cases hdecode : Utf8.decode bytes with
    | error fault => exact ⟨_, .undecodable hdecode⟩
    | ok text =>
      rw [givesNoText, hdecode] at h
      cases h

/-- Only a read can give no text. -/
theorem readFile_of_givesNoText {call : Platform.Call}
    {reply : Except Fault (Platform.Reply call)} (h : givesNoText ⟨call, reply⟩ = true) :
    ∃ path, call = .readFile path := by
  cases call <;> first | exact ⟨_, rfl⟩ | cases h

end Run

/-- A preview of a file, shown on a simulated platform. -/
def fileRun (content : List UInt8) (rounds : List Round) :
    Run Platform (Option PreviewWindow) SimulatedPlatform Exit :=
  (run 3 { bundle := "b.glsl" } none).run SimulatedPlatform.provider
    { tree := ({} : FileTree).put ["b.glsl"] content, rounds }

/-- The file goes, and the **reload key** is pressed. -/
def goneRound : Round :=
  { files := [(Path.ofString "b.glsl", none)], events := [.keyDown reloadKey] }

/-- A file that goes while it is shown leaves its window **going on** until it is closed. A file of
one spoilt byte ends the preview at the first read, with a fault. -/
theorem unread_ends_or_goes_on_gone :
    (∃ w after final rest refreshes fault, Dialogue.Path
      (goOnUnread "b.glsl" rest refreshes fault w) after (.ok .ok) final) ∧
    (fileRun [0xff] []).state = none ∧ (fileRun [0xff] []).moments.length = 1 ∧
      (fileRun [0xff] []).result = .error (.undecodable ⟨0xff, 0, 1, .invalidStart⟩) := by
  have hname : ({ bundle := "b.glsl" } : Arguments).bundle ≠ inputName := by decide
  have hlevel : ({ bundle := "b.glsl" } : Arguments).level.isSome = true := rfl
  have hcomputed : ((fileRun Session.bareBundle.toUTF8.toList [goneRound]).result = .ok .ok ∧
      ∃ m ∈ (fileRun Session.bareBundle.toUTF8.toList [goneRound]).moments.tail,
        givesNoText m.exchange = true) ∧
      (fileRun [0xff] []).result = .error (.undecodable ⟨0xff, 0, 1, .invalidStart⟩) ∧
      ∀ m ∈ (fileRun [0xff] []).moments, givesNoText m.exchange = true := by
    decide +kernel
  obtain ⟨⟨hclosed, ⟨s, call, reply⟩, hm, htextless⟩, hfault, hspoilt⟩ := hcomputed
  constructor
  · obtain ⟨path, rfl⟩ := readFile_of_givesNoText htextless
    obtain ⟨fault, hunread⟩ := unread_of_givesNoText htextless
    obtain ⟨⟨first, later, hmoments, -⟩, hgoes⟩ :=
      unread_ends_or_goes_on hname hlevel (Dialogue.path_run _ _ _)
    obtain ⟨before, after, he⟩ := List.append_of_mem hm
    have hwhole := hmoments.trans (congrArg (_ :: ·) ((congrArg List.tail hmoments).symm.trans he))
    obtain ⟨w, after', final', -, -, -, batch, handled, rest, refreshes, -, -, hpath⟩ :=
      hgoes (_ :: before) s path reply after fault hwhole (List.cons_ne_nil _ _) hunread
    exact ⟨w, after', final', rest, refreshes, fault, hclosed ▸ hpath⟩
  · obtain ⟨⟨reply, later, hmoments, hends⟩, -⟩ :=
      unread_ends_or_goes_on hname hlevel (Dialogue.path_run _ _ _)
    have hfirst := hspoilt _ (hmoments ▸ List.mem_cons_self)
    obtain ⟨fault, hunread⟩ := unread_of_givesNoText hfirst
    obtain ⟨rfl, hnone, -⟩ := hends fault hunread
    exact ⟨hnone, congrArg List.length hmoments, hfault⟩

/-- Bytes that are not text are **not taken for bad input**. -/
theorem undecodable_not_badInput : (fileRun [0xff] []).result ≠ .ok .badInput := by
  decide +kernel

end Preview

end ShaderPreview
