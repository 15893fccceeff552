import Mathlib.Data.List.Forall2
import ShaderPreview.Proofs.Device.Numbering
import ShaderPreview.Proofs.Dialogue.Views
import ShaderPreview.Proofs.Pipeline.Verdicts

/-!
# Devices in Step

Two simulated devices that have been through different things hand out different numbers. Otherwise
they may be **in step**: they are configured alike, and what one of them keeps under a handle the
other one keeps under the handle that is shifted by a constant. This is asked only of handles above
a floor. What is below it is left over from an earlier time, and nobody asks for it any more.

Two procedures **go along** when, on devices in step, they make the same calls up to the shift, end
in the same way up to the shift, and leave the devices in step. Procedures that are put together
from such go along as well. There is no need to look at the calls one by one for that: a call goes
along with the shifted one if its answers do.

## Main definitions

* `Shift`: how far handles and tokens are apart, and what that makes of calls and faults.
* `Shift.Devices`: two devices are in step.
* `Shift.Follows`: two procedures go along.

## Main results

* `Shift.Devices.attached`, `Shift.Devices.location`: what is read of a program is the same.
* `Shift.follows_ask`: a call goes along.
* `Shift.Follows.bind`, `Shift.Follows.handle`, `Shift.Follows.zoom`: what is put together goes
  along.
-/

namespace ShaderPreview

open Procedure

/-! ### Shifts -/

/-- **How far apart** the numbers of two devices are: handles, and tokens. -/
structure Shift where
  handles : Int
  tokens : Int

namespace Shift

variable (k : Shift)

/-- A token **is the other one**, shifted. -/
def Token (t t' : Nat) : Prop := (t' : Int) = t + k.tokens

/-- A handle above a floor **is the other one**, shifted. -/
def Handles (floor h h' : Handle) : Prop := floor < h ∧ h' = h + k.handles

/-- The handles of a call, shifted. -/
def call : Device.Call → Device.Call
  | .compileShader shader source => .compileShader (shader + k.handles) source
  | .shaderCompiled shader => .shaderCompiled (shader + k.handles)
  | .shaderInfoLog shader => .shaderInfoLog (shader + k.handles)
  | .deleteShader shader => .deleteShader (shader + k.handles)
  | .attachShader program shader => .attachShader (program + k.handles) (shader + k.handles)
  | .linkProgram program => .linkProgram (program + k.handles)
  | .programLinked program => .programLinked (program + k.handles)
  | .programInfoLog program => .programInfoLog (program + k.handles)
  | .deleteProgram program => .deleteProgram (program + k.handles)
  | .useProgram program => .useProgram (program + k.handles)
  | .uploadBuffer buffer data => .uploadBuffer (buffer + k.handles) data
  | .deleteBuffer buffer => .deleteBuffer (buffer + k.handles)
  | .attributeLocation program name => .attributeLocation (program + k.handles) name
  | .bindAttribute program location buffer components =>
    .bindAttribute (program + k.handles) location (buffer + k.handles) components
  | .uniformLocation program name => .uniformLocation (program + k.handles) name
  | .setUniform program location value => .setUniform (program + k.handles) location value
  | .drawTriangles program vertices => .drawTriangles (program + k.handles) vertices
  | call => call

/-- A call **is the other one**, shifted: its handles are, or its token is. -/
inductive Calls : Device.Call → Device.Call → Prop
  | moved (call : Device.Call) (h : ∀ token, call ≠ .cancelFrame token) : Calls call (k.call call)
  | cancelled {token token' : Nat} (h : k.Token token token') :
      Calls (.cancelFrame token) (.cancelFrame token')

/-- An information log **is the other one**, shifted: it speaks of the same kind of thing, under a
handle that is shifted. -/
def Logs (log log' : String) : Prop :=
  ∃ kind ∈ ["", "vertex", "fragment", "program"], ∃ handle,
    log = kind ++ " log " ++ Numeral.ofInt handle ∧
    log' = kind ++ " log " ++ Numeral.ofInt (handle + k.handles)

/-- A fault **is the other one**, shifted. Only the verdicts of the compiler and the linker have
handles in them, in the log. -/
inductive Faults : Fault → Fault → Prop
  | same {fault : Fault} (h : ¬fault.IsVerdict) : Faults fault fault
  | compile {log log' : String} (stage : Stage) (sources : Option Sources) (h : k.Logs log log') :
      Faults (.pipeline (.compile stage log sources)) (.pipeline (.compile stage log' sources))
  | link {log log' : String} (sources : Option Sources) (h : k.Logs log log') :
      Faults (.pipeline (.link log sources)) (.pipeline (.link log' sources))

/-! ### Devices -/

/-- A program of a simulated device, shifted. -/
def simulatedProgram (p : SimulatedProgram) : SimulatedProgram :=
  { p with shaders := p.shaders.map (· + k.handles) }

/-- Two devices are **in step** above a floor. -/
structure Devices (floor : Handle) (d d' : SimulatedDevice) : Prop where
  configuration_eq : d'.configuration = d.configuration
  unbroken : d.breakdowns = []
  unbroken' : d'.breakdowns = []
  floor_le : floor ≤ d.lastHandle
  last_eq : d'.lastHandle = d.lastHandle + k.handles
  shaders_eq : ∀ h, floor < h → d'.shaders.find? (h + k.handles) = d.shaders.find? h
  programs_eq : ∀ h, floor < h →
    d'.programs.find? (h + k.handles) = (d.programs.find? h).map k.simulatedProgram
  attached_above : ∀ h p, floor < h → d.programs.find? h = some p → ∀ s ∈ p.shaders, floor < s

variable {k} {floor : Handle} {d d' : SimulatedDevice}

namespace Devices

/-- Devices in step that are set alike stay in step. -/
theorem configure (h : k.Devices floor d d') (c : SimulatedDevice.Configuration) :
    k.Devices floor (d.configure c) (d'.configure c) where
  configuration_eq := rfl
  unbroken := h.unbroken
  unbroken' := h.unbroken'
  floor_le := h.floor_le
  last_eq := h.last_eq
  shaders_eq := h.shaders_eq
  programs_eq := h.programs_eq
  attached_above := h.attached_above

/-- The shaders **attached** to a program are the same. -/
theorem attached (h : k.Devices floor d d') {program : Handle} (hprogram : floor < program) :
    d'.attached (program + k.handles) = d.attached program := by
  rw [SimulatedDevice.attached, SimulatedDevice.attached, h.programs_eq program hprogram]
  cases hfind : d.programs.find? program with
  | none => rfl
  | some p =>
    show (p.shaders.map (· + k.handles)).filterMap d'.shaders.find? = _
    rw [List.filterMap_map]
    exact List.filterMap_congr fun s hs =>
      h.shaders_eq s (h.attached_above program p hprogram hfind s hs)

/-- A name of a program is **at the same location**. -/
theorem location (h : k.Devices floor d d') {program : Handle} (hprogram : floor < program)
    (stages : List Stage) (locations : List (String × Int)) (name : String) :
    d'.location (program + k.handles) stages locations name =
      d.location program stages locations name := by
  have hhidden : d'.hidden = d.hidden := congrArg (·.hidden) h.configuration_eq
  rw [SimulatedDevice.location, SimulatedDevice.location, SimulatedDevice.exposes,
    SimulatedDevice.exposes, h.attached hprogram, hhidden]

/-- Whatever is kept under the next handle, the devices stay in step. -/
theorem fresh (h : k.Devices floor d d') : k.Devices floor d.fresh.2 d'.fresh.2 where
  configuration_eq := h.configuration_eq
  unbroken := h.unbroken
  unbroken' := h.unbroken'
  floor_le := Int.le_add_one h.floor_le
  last_eq := by
    show d'.lastHandle + 1 = d.lastHandle + 1 + k.handles
    rw [h.last_eq, Int.add_right_comm]
  shaders_eq := h.shaders_eq
  programs_eq := h.programs_eq
  attached_above := h.attached_above

/-- The next handles of devices in lockstep are as far apart as all the others. -/
theorem handles_fresh (h : k.Devices floor d d') : k.Handles floor d.fresh.1 d'.fresh.1 :=
  ⟨Int.lt_add_one_of_le h.floor_le, h.fresh.last_eq⟩

/-- The same shader under shifted handles. -/
theorem putShader (h : k.Devices floor d d') (shader : Handle) (s : SimulatedShader) :
    k.Devices floor { d with shaders := d.shaders.put shader s }
      { d' with shaders := d'.shaders.put (shader + k.handles) s } where
  configuration_eq := h.configuration_eq
  unbroken := h.unbroken
  unbroken' := h.unbroken'
  floor_le := h.floor_le
  last_eq := h.last_eq
  shaders_eq := by
    intro other hother
    rw [Registry.find?_put, Registry.find?_put, h.shaders_eq other hother]
    by_cases hsame : other = shader
    · rw [if_pos hsame, if_pos (congrArg (· + k.handles) hsame)]
    · rw [if_neg hsame, if_neg fun h => hsame ((Int.add_left_inj k.handles).mp h)]
  programs_eq := h.programs_eq
  attached_above := h.attached_above

/-- The shifted program under shifted handles. -/
theorem putProgram (h : k.Devices floor d d') (program : Handle) {p : SimulatedProgram}
    (hp : ∀ s ∈ p.shaders, floor < s) :
    k.Devices floor { d with programs := d.programs.put program p }
      { d' with programs := d'.programs.put (program + k.handles) (k.simulatedProgram p) } where
  configuration_eq := h.configuration_eq
  unbroken := h.unbroken
  unbroken' := h.unbroken'
  floor_le := h.floor_le
  last_eq := h.last_eq
  shaders_eq := h.shaders_eq
  programs_eq := by
    intro other hother
    rw [Registry.find?_put, Registry.find?_put, h.programs_eq other hother]
    by_cases hsame : other = program
    · rw [if_pos hsame, if_pos (congrArg (· + k.handles) hsame), Option.map_some]
    · rw [if_neg hsame, if_neg fun h => hsame ((Int.add_left_inj k.handles).mp h)]
  attached_above := by
    intro other q hother hq
    rw [Registry.find?_put] at hq
    split at hq
    · obtain rfl := Option.some.inj hq
      exact hp
    · exact h.attached_above other q hother hq

/-- Devices stay in lockstep when both compile the same source for shaders in the same place. -/
theorem compile (h : k.Devices floor d d') {shader : Handle} (hshader : floor < shader)
    (source : String) :
    k.Devices floor (d.compile shader source) (d'.compile (shader + k.handles) source) := by
  have hrefused : d'.refusedStages = d.refusedStages :=
    congrArg (·.refusedStages) h.configuration_eq
  rw [SimulatedDevice.compile, SimulatedDevice.compile, h.shaders_eq shader hshader]
  cases d.shaders.find? shader with
  | none => exact h
  | some s =>
    have hcompiled :
        (!d'.refusedStages.contains s.stage && !SimulatedDevice.holds "#error" source) =
          (!d.refusedStages.contains s.stage && !SimulatedDevice.holds "#error" source) := by
      rw [hrefused]
    dsimp only
    rw [hcompiled]
    exact h.putShader shader _

/-- Devices stay in lockstep when a shader is attached to a program. -/
theorem attach (h : k.Devices floor d d') {program shader : Handle} (hprogram : floor < program)
    (hshader : floor < shader) :
    k.Devices floor (d.attach program shader)
      (d'.attach (program + k.handles) (shader + k.handles)) := by
  rw [SimulatedDevice.attach, SimulatedDevice.attach, h.programs_eq program hprogram]
  cases hfind : d.programs.find? program with
  | none => exact h
  | some p =>
    have hp : ∀ s ∈ p.shaders ++ [shader], floor < s := by
      intro s hs
      rcases List.mem_append.mp hs with hs | hs
      · exact h.attached_above program p hprogram hfind s hs
      · rw [List.mem_singleton.mp hs]
        exact hshader
    have hput := h.putProgram program (p := { p with shaders := p.shaders ++ [shader] }) hp
    rw [simulatedProgram, List.map_append] at hput
    exact hput

/-- Devices stay in lockstep when a program is linked. -/
theorem link (h : k.Devices floor d d') {program : Handle} (hprogram : floor < program) :
    k.Devices floor (d.link program) (d'.link (program + k.handles)) := by
  have hrefuses : d'.refusesLinks = d.refusesLinks := congrArg (·.refusesLinks) h.configuration_eq
  rw [SimulatedDevice.link, SimulatedDevice.link, h.attached hprogram,
    h.programs_eq program hprogram]
  cases hfind : d.programs.find? program with
  | none => exact h
  | some p =>
    dsimp only [Option.map_some]
    rw [congrArg (!·) hrefuses]
    exact h.putProgram program (p := { p with linked := _ })
      (h.attached_above program p hprogram hfind)

/-- A new shader on either device. -/
theorem createShader (h : k.Devices floor d d') (stage : Stage) :
    k.Devices floor (d.reply (.createShader stage)).2 (d'.reply (.createShader stage)).2 ∧
      k.Handles floor (d.reply (.createShader stage)).1 (d'.reply (.createShader stage)).1 := by
  refine ⟨?_, h.handles_fresh⟩
  have hput := h.fresh.putShader d.fresh.1 { stage }
  rw [← h.handles_fresh.2] at hput
  exact hput

/-- A new program on either device. -/
theorem createProgram (h : k.Devices floor d d') :
    k.Devices floor (d.reply .createProgram).2 (d'.reply .createProgram).2 ∧
      k.Handles floor (d.reply .createProgram).1 (d'.reply .createProgram).1 := by
  refine ⟨?_, h.handles_fresh⟩
  have hput := h.fresh.putProgram d.fresh.1 (p := {}) nofun
  rw [← h.handles_fresh.2] at hput
  exact hput

/-- The logs of shaders in the same place differ in the numeral of the shader at most. -/
theorem shaderLog (h : k.Devices floor d d') {shader : Handle} (hshader : floor < shader) :
    k.Logs (d.stageName shader ++ " log " ++ Numeral.ofInt shader)
      (d'.stageName (shader + k.handles) ++ " log " ++ Numeral.ofInt (shader + k.handles)) := by
  rw [SimulatedDevice.stageName, SimulatedDevice.stageName, h.shaders_eq shader hshader]
  refine ⟨_, ?_, shader, rfl, rfl⟩
  rcases d.shaders.find? shader with _ | ⟨stage, _, _⟩
  · exact .head _
  · cases stage with
    | vertex => exact .tail _ (.head _)
    | fragment => exact .tail _ (.tail _ (.head _))

end Devices

/-! ### Procedures -/

variable {σ τ α β : Type} {R : σ → σ → Prop} {Q : α → α → Prop} {Q' : β → β → Prop}

/-- Two procedures **end alike**: with related results or with a fault that is shifted, in related
states. -/
def Ends (k : Shift) (R : σ → σ → Prop) (Q : α → α → Prop) :
    Except Fault α → σ → Except Fault α → σ → Prop
  | .ok a, s, .ok a', s' => Q a a' ∧ R s s'
  | .error fault, s, .error fault', s' => k.Faults fault fault' ∧ R s s'
  | _, _, _, _ => False

/-- What ends alike ends alike in other states, if these are related. -/
theorem Ends.imp {S : τ → τ → Prop} {r r' : Except Fault α} {s s' : σ} {t t' : τ}
    (h : k.Ends R Q r s r' s') (hstate : R s s' → S t t') : k.Ends S Q r t r' t' := by
  match r, r', h with
  | .ok _, .ok _, ⟨ha, hs⟩ => exact ⟨ha, hstate hs⟩
  | .error _, .error _, ⟨hfault, hs⟩ => exact ⟨hfault, hstate hs⟩

/-- Two runs are **in step**: they make the same calls, shifted, they end alike, and they leave the
devices in step. -/
structure Runs (k : Shift) (floor : Handle) (R : σ → σ → Prop) (Q : α → α → Prop)
    (run run' : Run Device σ SimulatedDevice α) : Prop where
  devices : k.Devices floor run.provider run'.provider
  calls : List.Forall₂ k.Calls (run.moments.map (·.call)) (run'.moments.map (·.call))
  ends : k.Ends R Q run.result run.state run'.result run'.state

/-- Two procedures **go along** on related states: on devices in step their runs are in step. -/
def Follows (k : Shift) (floor : Handle) (R : σ → σ → Prop) (p p' : DeviceProcedure σ α)
    (Q : α → α → Prop) : Prop :=
  ∀ s s' d d', R s s' → k.Devices floor d d' →
    k.Runs floor R Q ((p s).run SimulatedDevice.provider d)
      ((p' s').run SimulatedDevice.provider d')

/-- Runs that go on in step after runs in step. -/
theorem Runs.follow {dlg dlg' : Dialogue Device σ α}
    {next next' : Except Fault α → σ → Dialogue Device σ β}
    (h : k.Runs floor R Q (dlg.run SimulatedDevice.provider d)
      (dlg'.run SimulatedDevice.provider d'))
    (hnext : ∀ r s r' s' d d', k.Ends R Q r s r' s' → k.Devices floor d d' →
      k.Runs floor R Q' ((next r s).run SimulatedDevice.provider d)
        ((next' r' s').run SimulatedDevice.provider d')) :
    k.Runs floor R Q' ((dlg.follow next).run SimulatedDevice.provider d)
      ((dlg'.follow next').run SimulatedDevice.provider d') := by
  obtain ⟨hdevices, hcalls, hends⟩ := h
  obtain ⟨hdevices', hcalls', hends'⟩ := hnext _ _ _ _ _ _ hends hdevices
  rw [Dialogue.run_follow, Dialogue.run_follow]
  refine ⟨hdevices', ?_, hends'⟩
  simp only [List.map_append]
  exact List.rel_append hcalls hcalls'

variable {p p' : DeviceProcedure σ α}

/-- Results that go together may be given. -/
theorem follows_pure {a a' : α} (h : Q a a') :
    k.Follows floor R (pure a : DeviceProcedure σ α) (pure a') Q :=
  fun _ _ _ _ hs hd => ⟨hd, .nil, h, hs⟩

/-- Faults that go together may be raised. -/
theorem follows_fail {fault fault' : Fault} (h : k.Faults fault fault') :
    k.Follows floor R (fail fault : DeviceProcedure σ α) (fail fault') Q :=
  fun _ _ _ _ hs hd => ⟨hd, .nil, h, hs⟩

/-- States that go together may be changed, as long as they still do. -/
theorem follows_update {f f' : σ → σ} (h : ∀ s s', R s s' → R (f s) (f' s')) :
    k.Follows floor R (update f : DeviceProcedure σ Unit) (update f') fun _ _ => True :=
  fun s s' _ _ hs hd => ⟨hd, .nil, trivial, h s s' hs⟩

/-- What the user is told makes no difference. -/
theorem follows_tell {notice notice' : Notice} :
    k.Follows floor R (tell notice : DeviceProcedure σ Unit) (tell notice') fun _ _ => True :=
  fun _ _ _ _ hs hd => ⟨hd, .nil, trivial, hs⟩

/-- A value, or a fault without handles. -/
theorem follows_ofExcept {r : Except Fault α} (hr : ∀ fault, r = .error fault → ¬fault.IsVerdict) :
    k.Follows floor R (ofExcept r : DeviceProcedure σ α) (ofExcept r) fun a a' => a = a' := by
  cases r with
  | ok a => exact follows_pure rfl
  | error fault => exact follows_fail (.same (hr fault rfl))

/-- **A call** goes along with the shifted one, if the answers do. -/
theorem follows_ask {call call' : Device.Call}
    (Q : Device.Reply call → Device.Reply call' → Prop) (hcall : k.Calls call call')
    (hreply : ∀ d d', k.Devices floor d d' →
      k.Devices floor (d.reply call).2 (d'.reply call').2 ∧ Q (d.reply call).1 (d'.reply call').1)
    {α : Type} {f : Device.Reply call → DeviceProcedure σ α}
    {f' : Device.Reply call' → DeviceProcedure σ α} {Q' : α → α → Prop}
    (hf : ∀ a a', Q a a' → k.Follows floor R (f a) (f' a') Q') :
    k.Follows floor R (Device.ask call >>= f) (Device.ask call' >>= f') Q' := by
  intro s s' d d' hs hd
  obtain ⟨hd', ha⟩ := hreply d d' hd
  have hrun : ∀ {call : Device.Call} (f : Device.Reply call → DeviceProcedure σ α) s d,
      d.breakdowns = [] → ((Device.ask call >>= f) s).run SimulatedDevice.provider d =
        let rest := (f (d.reply call).1 s).run SimulatedDevice.provider (d.reply call).2
        { rest with moments := ⟨s, call, .ok (d.reply call).1⟩ :: rest.moments } := by
    intro call f s d hd
    show Dialogue.run _ (Dialogue.ask (I := Device) s call _) d = _
    rw [Dialogue.run, SimulatedDevice.answer_of_unbroken hd]
    rfl
  obtain ⟨hdevices, hcalls, hends⟩ := hf _ _ ha s s' _ _ hs hd'
  rw [hrun f s d hd.unbroken, hrun f' s' d' hd.unbroken']
  exact ⟨hdevices, .cons hcall hcalls, hends⟩

/-- A call that leaves the device as it is goes along with the shifted one, whatever they answer. -/
theorem follows_silent {call call' : Device.Call} {f : Device.Reply call → DeviceProcedure σ α}
    {f' : Device.Reply call' → DeviceProcedure σ α} (hcall : k.Calls call call')
    (hf : ∀ a a', k.Follows floor R (f a) (f' a') Q)
    (hkeep : ∀ d : SimulatedDevice, (d.reply call).2 = d := by intro _; rfl)
    (hkeep' : ∀ d : SimulatedDevice, (d.reply call').2 = d := by intro _; rfl) :
    k.Follows floor R (Device.ask call >>= f) (Device.ask call' >>= f') Q := by
  refine follows_ask (fun _ _ => True) hcall (fun d d' h => ⟨?_, trivial⟩) fun a a' _ => hf a a'
  rw [hkeep, hkeep']
  exact h

/-- Going along does not depend on there being something to come. -/
theorem Follows.of_bind_pure (h : k.Follows floor R (p >>= pure) (p' >>= pure) Q) :
    k.Follows floor R p p' Q := by
  rwa [bind_pure, bind_pure] at h

/-- **What comes after** goes along as well. -/
theorem Follows.bind {f f' : α → DeviceProcedure σ β} (hp : k.Follows floor R p p' Q)
    (hf : ∀ a a', Q a a' → k.Follows floor R (f a) (f' a') Q') :
    k.Follows floor R (p >>= f) (p' >>= f') Q' := by
  intro s s' d d' hs hd
  rw [bind_apply, bind_apply]
  refine (hp s s' d d' hs hd).follow fun r s r' s' d d' hends hd => ?_
  match r, r', hends with
  | .ok a, .ok a', ⟨ha, hs⟩ => exact hf a a' ha s s' d d' hs hd
  | .error _, .error _, hends => exact ⟨hd, .nil, hends⟩

/-- Procedures that look at the state go along if they do for related states. -/
theorem follows_state_bind {f f' : σ → DeviceProcedure σ α}
    (h : ∀ s s', R s s' → k.Follows floor R (f s) (f' s') Q) :
    k.Follows floor R (state >>= f) (state >>= f') Q :=
  fun s s' d d' hs hd => h s s' hs s s' d d' hs hd

/-- What comes **after a fault** goes along as well. -/
theorem Follows.handle {recover recover' : Fault → DeviceProcedure σ α}
    (hp : k.Follows floor R p p' Q)
    (hr : ∀ fault fault', k.Faults fault fault' →
      k.Follows floor R (recover fault) (recover' fault') Q) :
    k.Follows floor R (p.handle recover) (p'.handle recover') Q := by
  intro s s' d d' hs hd
  refine (hp s s' d d' hs hd).follow fun r s r' s' d d' hends hd => ?_
  match r, r', hends with
  | .ok a, .ok a', hends => exact ⟨hd, .nil, hends⟩
  | .error fault, .error fault', ⟨hfault, hs⟩ => exact hr fault fault' hfault s s' d d' hs hd

/-- Procedures **on a part** of a state go along if they do there. -/
theorem Follows.zoom {S : τ → τ → Prop} {q q' : DeviceProcedure τ α} {get : σ → τ}
    {set : σ → τ → σ} (hq : k.Follows floor S q q' Q) (hget : ∀ s s', R s s' → S (get s) (get s'))
    (hset : ∀ s s' t t', R s s' → S t t' → R (set s t) (set s' t')) :
    k.Follows floor R (q.zoom get set) (q'.zoom get set) Q := by
  intro s s' d d' hs hd
  obtain ⟨hdevices, hcalls, hends⟩ := hq _ _ d d' (hget s s' hs) hd
  rw [Procedure.zoom, Procedure.zoom, Dialogue.run_mapState, Dialogue.run_mapState]
  refine ⟨hdevices, ?_, ?_⟩
  · simp only [List.map_map]
    exact hcalls
  · exact hends.imp fun ht => hset _ _ _ _ hs ht

end Shift

end ShaderPreview
