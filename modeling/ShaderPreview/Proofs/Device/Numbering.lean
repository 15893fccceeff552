import ShaderPreview.Device.Simulated
import ShaderPreview.Proofs.Device.Ledger

/-!
# How a Simulated Device Counts

A simulated device takes its handles from one counter and never goes back. So no handle is created
twice, whatever it is asked, and nothing is kept under a handle that is still to come. Its
configuration stays as it was set, and unless it was told to break down it answers every call.

## Main definitions

* `SimulatedDevice.Configuration`, `SimulatedDevice.configure`: what can be set of one.
* `Device.Numbered`: what was created on a simulated device, beside its counter.

## Main results

* `Device.Numbered.answer`, `Device.Numbered.run`: a call and a run keep the count.
-/

namespace ShaderPreview

/-! ### Configurations -/

namespace SimulatedDevice

/-- What can be **set of a simulated device**, apart from breakdowns. -/
structure Configuration where
  available : Bool := true
  refusedStages : List Stage := []
  refusesLinks : Bool := false
  hidden : List String := []
  view : ViewSize := .pixels 400 300
  time : Float := 100.0

/-- How a device is set. -/
def configuration (d : SimulatedDevice) : Configuration where
  available := d.available
  refusedStages := d.refusedStages
  refusesLinks := d.refusesLinks
  hidden := d.hidden
  view := d.view
  time := d.time

/-- **Sets** a device. -/
def configure (d : SimulatedDevice) (c : Configuration) : SimulatedDevice :=
  { d with
    available := c.available
    refusedStages := c.refusedStages
    refusesLinks := c.refusesLinks
    hidden := c.hidden
    view := c.view
    time := c.time }

/-- A device that is not about to break down answers every call. -/
theorem answer_of_unbroken {d : SimulatedDevice} (h : d.breakdowns = []) (call : Device.Call) :
    provider.answer d call = (.ok (d.reply call).1, (d.reply call).2) := by
  have hcount : d.count call.name = (false, d) := by
    rw [count, h]
    exact congrArg (Prod.mk false) (by rw [List.map_nil, ← h])
  dsimp only [provider]
  rw [hcount]
  cases call.isRead <;> rfl

end SimulatedDevice

/-! ### Counting -/

namespace Device

open SimulatedDevice

/-- What passed on a simulated device that is set in a certain way, and **counts**: no handle was
created twice, and none is created or in use beyond the last one. -/
structure Numbered (c : Configuration) (past : List (Exchange Device)) (d : SimulatedDevice) :
    Prop where
  configuration_eq : d.configuration = c
  unbroken : d.breakdowns = []
  created_nodup : (created past).Nodup
  created_le : ∀ o ∈ created past, o.handle ≤ d.lastHandle
  shaders_unused : ∀ h, d.lastHandle < h → d.shaders.find? h = none
  programs_unused : ∀ h, d.lastHandle < h → d.programs.find? h = none

namespace Numbered

variable {c : Configuration} {past : List (Exchange Device)} {x : Exchange Device}
  {d : SimulatedDevice}

/-- A new device counts. -/
theorem new : Numbered {} [] {} :=
  ⟨rfl, rfl, List.nodup_nil, nofun, fun _ _ => rfl, fun _ _ => rfl⟩

/-- A device that is set anew goes on counting. -/
theorem configure (h : Numbered c past d) (c' : Configuration) :
    Numbered c' past (d.configure c') :=
  ⟨rfl, h.unbroken, h.created_nodup, h.created_le, h.shaders_unused, h.programs_unused⟩

/-- An exchange that creates nothing. -/
theorem keep (h : Numbered c past d) (hx : obtained? x = none) : Numbered c (past ++ [x]) d := by
  have hcreated : created (past ++ [x]) = created past := by
    rw [created_append_singleton, hx, Option.toList_none, List.append_nil]
  refine ⟨h.configuration_eq, h.unbroken, ?_, ?_, h.shaders_unused, h.programs_unused⟩
  · rw [hcreated]
    exact h.created_nodup
  · rw [hcreated]
    exact h.created_le

/-- An exchange that creates the next handle. -/
theorem create {o : Owned} (h : Numbered c past d) (hx : obtained? x = some o)
    (ho : o.handle = d.lastHandle + 1) : Numbered c (past ++ [x]) d.fresh.2 := by
  have hcreated : created (past ++ [x]) = created past ++ [o] := by
    rw [created_append_singleton, hx, Option.toList_some]
  have hnew : o ∉ created past := fun hmem =>
    Int.not_le.mpr (Int.lt_succ d.lastHandle) (ho ▸ h.created_le o hmem)
  have hnext : ∀ n : Handle, d.lastHandle + 1 < n → d.lastHandle < n := fun _ =>
    Int.lt_trans (Int.lt_succ d.lastHandle)
  refine ⟨h.configuration_eq, h.unbroken, ?_, ?_, fun n hn => h.shaders_unused n (hnext n hn),
    fun n hn => h.programs_unused n (hnext n hn)⟩
  · rw [hcreated, ← List.concat_eq_append]
    exact h.created_nodup.concat hnew
  · intro o' ho'
    rw [hcreated] at ho'
    rcases List.mem_append.mp ho' with ho' | ho'
    · exact Int.le_add_one (h.created_le o' ho')
    · rw [List.mem_singleton.mp ho', ho]
      exact Int.le_refl _

/-- An entry for a shader that has its number already leaves the handles numbered. -/
theorem putShader {shader : Handle} (h : Numbered c past d) (hshader : shader ≤ d.lastHandle)
    (s : SimulatedShader) : Numbered c past { d with shaders := d.shaders.put shader s } := by
  refine ⟨h.configuration_eq, h.unbroken, h.created_nodup, h.created_le, fun n hn => ?_,
    h.programs_unused⟩
  rw [Registry.find?_put, if_neg (Int.ne_of_gt (Int.lt_of_le_of_lt hshader hn))]
  exact h.shaders_unused n hn

/-- So does an entry for a program. -/
theorem putProgram {program : Handle} (h : Numbered c past d) (hprogram : program ≤ d.lastHandle)
    (p : SimulatedProgram) : Numbered c past { d with programs := d.programs.put program p } := by
  refine ⟨h.configuration_eq, h.unbroken, h.created_nodup, h.created_le, h.shaders_unused,
    fun n hn => ?_⟩
  rw [Registry.find?_put, if_neg (Int.ne_of_gt (Int.lt_of_le_of_lt hprogram hn))]
  exact h.programs_unused n hn

/-- What is in use is not beyond the last handle. -/
theorem shader_le {shader : Handle} {s : SimulatedShader} (h : Numbered c past d)
    (hs : d.shaders.find? shader = some s) : shader ≤ d.lastHandle := by
  refine Int.not_lt.mp fun hlt => ?_
  rw [h.shaders_unused shader hlt] at hs
  cases hs

/-- A program that is there has a number. -/
theorem program_le {program : Handle} {p : SimulatedProgram} (h : Numbered c past d)
    (hp : d.programs.find? program = some p) : program ≤ d.lastHandle := by
  refine Int.not_lt.mp fun hlt => ?_
  rw [h.programs_unused program hlt] at hp
  cases hp

/-- Compiling leaves the handles numbered. -/
theorem compile (h : Numbered c past d) (shader : Handle) (source : String) :
    Numbered c past (d.compile shader source) := by
  rw [SimulatedDevice.compile]
  cases hfind : d.shaders.find? shader with
  | none => exact h
  | some s => exact h.putShader (h.shader_le hfind) _

/-- So does attaching a shader. -/
theorem attach (h : Numbered c past d) (program shader : Handle) :
    Numbered c past (d.attach program shader) := by
  rw [SimulatedDevice.attach]
  cases hfind : d.programs.find? program with
  | none => exact h
  | some p => exact h.putProgram (h.program_le hfind) _

/-- So does linking a program. -/
theorem link (h : Numbered c past d) (program : Handle) : Numbered c past (d.link program) := by
  rw [SimulatedDevice.link]
  cases hfind : d.programs.find? program with
  | none => exact h
  | some p => exact h.putProgram (h.program_le hfind) _

/-- **Every call** is answered, and the device goes on counting. -/
theorem answer (h : Numbered c past d) (call : Device.Call) :
    Numbered c (past ++ [⟨call, .ok (d.reply call).1⟩]) (d.reply call).2 := by
  cases call with
  | createShader stage =>
    exact (h.create (x := ⟨.createShader stage, .ok d.fresh.1⟩) rfl rfl).putShader (Int.le_refl _) _
  | createProgram =>
    exact (h.create (x := ⟨.createProgram, .ok d.fresh.1⟩) rfl rfl).putProgram (Int.le_refl _) _
  | createBuffer => exact h.create (x := ⟨.createBuffer, .ok d.fresh.1⟩) rfl rfl
  | compileShader shader source => exact (h.compile shader source).keep rfl
  | attachShader program shader => exact (h.attach program shader).keep rfl
  | linkProgram program => exact (h.link program).keep rfl
  | _ => exact h.keep rfl

variable {σ α : Type}

/-- **Every run** leaves the device counting. -/
theorem run (h : Numbered c past d) (dlg : Dialogue Device σ α) :
    Numbered c (past ++ (dlg.run provider d).moments.map Moment.exchange)
      (dlg.run provider d).provider := by
  induction dlg generalizing past d with
  | done r s => rwa [Dialogue.run, List.map_nil, List.append_nil]
  | ask s call next ih =>
    have hrest := ih (.ok (d.reply call).1) (h.answer call)
    rw [List.append_assoc] at hrest
    simp only [Dialogue.run, answer_of_unbroken h.unbroken]
    exact hrest
  | tell n next ih => exact ih h

/-- No call of a run is refused. -/
theorem answered (h : Numbered c past d) (dlg : Dialogue Device σ α) :
    ∀ m ∈ (dlg.run provider d).moments, ∃ a, m.reply = .ok a := by
  induction dlg generalizing past d with
  | done r s =>
    rw [Dialogue.run]
    exact List.forall_mem_nil _
  | ask s call next ih =>
    have hrest := ih (.ok (d.reply call).1) (h.answer call)
    simp only [Dialogue.run, answer_of_unbroken h.unbroken]
    exact List.forall_mem_cons.mpr ⟨⟨_, rfl⟩, hrest⟩
  | tell n next ih => exact ih h

end Numbered

end Device

end ShaderPreview
