import ShaderPreview.Proofs.Gl.Drawing

/-!
# What a Device Owns

A device **owns** what it has stored: it obtained it, and it has not given it back. On a context
that gives no object twice and refuses no release, two things can go wrong over a course of calls,
whatever else the context refuses.

An upload gives back what was in the buffer before it asks for a new object. If that one is refused,
the released object stays in the table, and whatever comes to the buffer next releases it again. And
a link that succeeds puts its object in the place of an earlier one, which nobody releases any more.
The device owns what it has stored as long as the first does not happen, and a release of the device
gives back everything but what was lost in the second way.

## Main definitions

* `GlDevice.Owns`: nothing is released twice, and what is stored is still there.

## Main results

* `GlDevice.Course.gone`: a release takes the context away for good.
* `GlDevice.owns_iff_unspoilt`: when a device owns what it has stored, and what a release leaves.
* `GlDevice.relinked_leaks`: a program that is linked twice leaves an object behind.
* `GlDevice.refilled_released_twice`: a refused upload leads to a second release.
-/

namespace ShaderPreview.GlDevice

open Procedure Contract Platform

variable {d start : GlDevice} {turns : List Turn} {t : Turn} {lost : List GpuObject}
  {past : List (Exchange Platform)}

/-- A device **owns** what it has stored, after what has passed: no object was released twice or
without having been obtained, and what is stored was obtained and is not released. -/
structure Owns (past : List (Exchange Platform)) (d : GlDevice) : Prop where
  released_nodup : (released past).Nodup
  released_subset : released past ⊆ obtained past
  stored : ∀ place o, d.storage place = some o → o ∈ obtained past ∧ o ∉ released past

/-- A device in stock owns what it has stored. -/
theorem InStock.owns (h : InStock lost past d) : Owns past d :=
  ⟨h.tally.released_nodup, h.tally.released_subset, fun place o ho =>
    (h.tally.unreleased_iff o).mpr (.inl ⟨place, ho⟩)⟩

/-- A spoilt device does not own what it has stored. -/
theorem Spoilt.not_owns {s : GlDevice} {handle : Handle} (h : Spoilt d handle past s) :
    ¬Owns past s := by
  intro howns
  obtain ⟨o, ho, hreleased⟩ := h.released
  rw [← h.state_eq] at ho
  exact (howns.stored (.data handle) o ho).2 hreleased

/-- Without a context a device in stock has nothing left but what was lost. -/
theorem InStock.unreleased_iff_of_gone (h : InStock lost past d) (hgone : d.hasContext = false)
    (o : GpuObject) : o ∈ obtained past ∧ o ∉ released past ↔ o ∈ lost := by
  rw [h.tally.unreleased_iff]
  refine or_iff_right ?_
  rintro ⟨place, hplace⟩
  rw [h.context hgone place] at hplace
  cases hplace

/-! ### Courses -/

/-- A course up to one of its turns is a course. -/
theorem Course.upTo (h : Course start turns d) {first since : List Turn}
    (he : turns = first ++ t :: since) : Course start (first ++ [t]) t.after := by
  induction h generalizing since with
  | nil => exact absurd he (by simp)
  | @turn turns t' hcourse hpath ih =>
    rcases List.eq_nil_or_concat since with rfl | ⟨since', last, rfl⟩
    · rw [← he]
      obtain ⟨-, hlast⟩ := List.append_inj' he rfl
      obtain ⟨rfl, -⟩ := List.cons.inj hlast
      exact hcourse.turn hpath
    · rw [List.concat_eq_append, ← List.cons_append, ← List.append_assoc] at he
      exact ih (List.append_inj' he rfl).1

/-- A **release** takes the context away, and no turn brings it back. -/
theorem Turn.gone (hstock : InStock lost past t.before)
    (hpath : Dialogue.Path (t.operation.carryOut t.before) t.moments t.result t.after)
    (horderly : Orderly (past ++ t.exchanges))
    (h : t.before.hasContext = false ∨ t.operation = .release) : t.after.hasContext = false := by
  cases hop : t.operation with
  | ask call =>
    have hgone : t.before.hasContext = false := by
      rcases h with h | h
      · exact h
      · cases hop.symm.trans h
    rcases Turn.moves_or_empties hpath with ⟨x, -, hmoves⟩ | ⟨hrelease, -⟩
    · exact hmoves.hasContext_eq.trans hgone
    · cases hop.symm.trans hrelease
  | release =>
    rw [hop] at hpath
    have hrelease : Honours (lax Spares) (Stocked lost t.before.storage t.before) GlDevice.release
        (fun _ _ s => s.hasContext = false) (fun _ _ s => s.hasContext = false) :=
      honours_release.weaken_ok fun _ _ _ h => h.2
    exact (hrelease.path_end hstock hpath (Orderly.relied horderly)).2

/-- Over a course that spoils nothing a **release** takes the context away for good. -/
theorem Course.gone (h : Course start turns d) (hstart : Traced [] start)
    (hstock : InStock [] [] start) (horderly : Orderly (exchanges turns))
    (hspoils : ∀ t ∈ turns, ¬t.Spoils) (hrelease : ∃ t ∈ turns, t.operation = .release) :
    d.hasContext = false := by
  induction h with
  | nil =>
    obtain ⟨t, ht, -⟩ := hrelease
    exact absurd ht List.not_mem_nil
  | @turn turns t hcourse hpath ih =>
    rw [exchanges_append_singleton] at horderly
    have hbefore : ∀ t ∈ turns, ¬t.Spoils := fun t ht => hspoils t (List.mem_append_left _ ht)
    obtain ⟨lost, hstock', -⟩ := hcourse.inStock_of_unspoilt hstart hstock horderly.left hbefore
    refine Turn.gone hstock' hpath horderly ?_
    obtain ⟨t', ht', hop⟩ := hrelease
    rcases List.mem_append.mp ht' with ht' | ht'
    · exact .inl (ih horderly.left hbefore ⟨t', ht', hop⟩)
    · exact .inr (List.mem_singleton.mp ht' ▸ hop)

/-! ### Owning -/

/-- **A device owns what it has stored** at every point of a course just if no turn spoils a buffer,
over any course of a new device on a context that gives no object twice and refuses no release. In
such a course a release of the device leaves nothing unreleased but what a second link displaced. -/
theorem owns_iff_unspoilt {info : ContextInfo} {glslVersion : Option Int} {view : Option ViewSize}
    (hcourse : Course (onContext info glslVersion view) turns d)
    (horderly : Orderly (exchanges turns)) :
    ((∀ first t since, turns = first ++ t :: since → Owns (exchanges (first ++ [t])) t.after) ↔
        ∀ t ∈ turns, ¬t.Spoils) ∧
      ((∀ t ∈ turns, ¬t.Spoils) → (∃ t ∈ turns, t.operation = .release) →
        ∀ o, o ∈ obtained (exchanges turns) ∧ o ∉ released (exchanges turns) ↔
          ∃ t ∈ turns, t.Displaces o) := by
  refine ⟨⟨fun howns => ?_, fun hspoils first t since he => ?_⟩, fun hspoils hrelease o => ?_⟩
  · rcases hcourse.inStock_or_spoilt traced_onContext inStock_onContext horderly with
      ⟨_, -, hspoils, -⟩ | ⟨first, t, since, handle, he, -, hspoilt⟩
    · exact hspoils
    · exact absurd (howns first t since he) hspoilt.not_owns
  · have hfirst : Orderly (exchanges (first ++ [t])) := by
      rw [he, List.append_cons, exchanges_append] at horderly
      exact horderly.left
    have hspoils' : ∀ t' ∈ first ++ [t], ¬t'.Spoils := fun t' ht' => by
      refine hspoils t' ?_
      rw [he, List.append_cons]
      exact List.mem_append_left _ ht'
    obtain ⟨lost, hstock, -⟩ := (hcourse.upTo he).inStock_of_unspoilt traced_onContext
      inStock_onContext hfirst hspoils'
    exact hstock.owns
  · obtain ⟨lost, hstock, hlost⟩ := hcourse.inStock_of_unspoilt traced_onContext
      inStock_onContext horderly hspoils
    rw [hstock.unreleased_iff_of_gone
      (hcourse.gone traced_onContext inStock_onContext horderly hspoils hrelease), hlost]

/-! ### A second link -/

/-- A program is **linked twice**, and the device is released. -/
def relinking : List Operation :=
  [.createShader .vertex, .compileShader 1 "position", .createShader .fragment,
    .compileShader 2 "f", .createProgram, .attachShader 3 1, .attachShader 3 2, .linkProgram 3,
    .linkProgram 3].map .ask ++ [.release]

/-- The course of that on a simulated platform. -/
def relinked : List Turn × GlDevice × SimulatedPlatform :=
  turnsOn SimulatedPlatform.provider relinking (onContext ⟨.pixels 400 300, 330⟩ none none) {}

/-- It is a course of a new device. -/
theorem course_relinked : Course (onContext ⟨.pixels 400 300, 330⟩ none none) relinked.1
    relinked.2.1 :=
  Course.nil.append_turnsOn SimulatedPlatform.provider relinking {}

/-- Nothing was refused in it, and nothing was obtained twice. -/
theorem orderly_relinked : Orderly (exchanges relinked.1) :=
  .of_all (by decide +kernel) (by decide +kernel)

/-- The device was released in the end. -/
theorem exists_release_relinked : ∃ t ∈ relinked.1, t.operation = .release := by
  have hrelease : Operation.release ∈ relinked.1.map (·.operation) := by
    rw [relinked, operation_turnsOn]
    simp [relinking]
  exact List.mem_map.mp hrelease

/-- The first program was obtained. -/
theorem obtained_relinked : .program 3 ∈ obtained (exchanges relinked.1) := by decide +kernel

/-- It was never released. -/
theorem not_released_relinked : .program 3 ∉ released (exchanges relinked.1) := by decide +kernel

/-- What the first link gave is **never released**, although the device is. -/
theorem relinked_leaks :
    Course (onContext ⟨.pixels 400 300, 330⟩ none none) relinked.1 relinked.2.1 ∧
      Orderly (exchanges relinked.1) ∧ (∃ t ∈ relinked.1, t.operation = .release) ∧
      .program 3 ∈ obtained (exchanges relinked.1) ∧
      .program 3 ∉ released (exchanges relinked.1) :=
  ⟨course_relinked, orderly_relinked, exists_release_relinked, obtained_relinked,
    not_released_relinked⟩

/-- Nothing is uploaded in that course, so the device owns what it has stored at every point, and
the object that is left was **displaced**. -/
theorem owns_iff_unspoilt_relinked :
    Orderly (exchanges relinked.1) ∧
      (∀ first t since, relinked.1 = first ++ t :: since →
        Owns (exchanges (first ++ [t])) t.after) ∧
      ∃ t ∈ relinked.1, t.Displaces (.program 3) := by
  obtain ⟨howns, hleft⟩ := owns_iff_unspoilt course_relinked orderly_relinked
  have hspoils : ∀ t ∈ relinked.1, ¬t.Spoils := by
    rintro t ht ⟨handle, data, fault, hupload, -⟩
    have hop : Operation.ask (.uploadBuffer handle data) ∈ relinking := by
      rw [← hupload, ← operation_turnsOn SimulatedPlatform.provider relinking]
      exact List.mem_map_of_mem ht
    simp [relinking] at hop
  exact ⟨orderly_relinked, howns.mpr hspoils,
    (hleft hspoils exists_release_relinked _).mp ⟨obtained_relinked, not_released_relinked⟩⟩

/-! ### A refused upload -/

/-- A platform that has **memory for one buffer** only. -/
def oneBuffer : Provider Platform SimulatedPlatform where
  answer p call :=
    match call, p.buffers with
    | .createBuffer _, 1 => (.error (.rejected "out of memory"), p)
    | call, _ => SimulatedPlatform.provider.answer p call

/-- A buffer is **uploaded twice**, and the device is released. -/
def refilling : List Operation :=
  [.createBuffer, .uploadBuffer 1 [0, 0, 0, 0], .uploadBuffer 1 [0, 0, 0, 0]].map .ask ++ [.release]

/-- The course of that where there is memory for one buffer. -/
def refilled : List Turn × GlDevice × SimulatedPlatform :=
  turnsOn oneBuffer refilling (onContext ⟨.pixels 400 300, 330⟩ none none) {}

/-- The second upload is refused, and the release of the device releases the first object **a second
time**. -/
theorem refilled_released_twice :
    Course (onContext ⟨.pixels 400 300, 330⟩ none none) refilled.1 refilled.2.1 ∧
      Orderly (exchanges refilled.1) ∧
      released (exchanges refilled.1) = [.buffer 1, .buffer 1] :=
  ⟨Course.nil.append_turnsOn oneBuffer refilling {},
    .of_all (by decide +kernel) (by decide +kernel), by decide +kernel⟩

end ShaderPreview.GlDevice
