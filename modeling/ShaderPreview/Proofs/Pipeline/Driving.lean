import ShaderPreview.Proofs.Gl.Driving
import ShaderPreview.Proofs.Pipeline.Verdicts

/-!
# A Pipeline on a Device That Obliges

On a context that obliges a build comes to a program that may be drawn, or the latest program was
turned down, and the fault is a verdict of the compiler or the linker. In either case nothing was
timed or rendered, and the device keeps its view and its context.

## Main results

* `Pipeline.drives_compile`, `Pipeline.drives_link`: the two kinds of verdicts.
* `Pipeline.drives_build`: what a build comes to.
* `Pipeline.drives_teardown`: a teardown leaves nothing.
-/

namespace ShaderPreview.Pipeline

open Procedure Platform GlDevice

variable {w : Work} {s : Pipeline} {d start : GlDevice}
  {err : Work → Fault → Pipeline → GlDevice → Prop}

/-! ### Building -/

/-- A shader **compiles**, or it was turned down. -/
theorem drives_compile (hd : d.hasContext = true) {stage : Stage} {source : String}
    {ok : Work → Handle → Pipeline → GlDevice → Prop}
    (hok : ∀ w' shader owned d', w.Quiet w' → Grows d d' → d.lastHandle < shader →
      d'.HasShader stage shader → ok w' shader { s with owned } d')
    (herr : ∀ w' fault owned d', w.Quiet w' → Stays d d' → w'.verdict = some false →
      fault.IsVerdict → err w' fault { s with owned } d') :
    Drives w s d (compile stage source) ok err := by
  rw [compile]
  refine Drives.bind (Drives.ask (leads_createShader (Drives.bind (Drives.update ?_))))
  refine Drives.bind (Drives.ask ?_)
  refine leads_compileShader ?_ Registry.find?_put_self fun w' shader hquiet hstage hverdict => ?_
  · exact hd
  have hgrows : Grows d { d with
      lastHandle := d.lastHandle + 1
      shaders := (d.shaders.put (d.lastHandle + 1) { stage }).put (d.lastHandle + 1) shader } :=
    (Grows.refl.count.putShader lt_next).putShader lt_next
  have hfound : ((d.shaders.put (d.lastHandle + 1) { stage }).put (d.lastHandle + 1) shader).find?
      (d.lastHandle + 1) = some shader := Registry.find?_put_self
  refine Drives.bind (Drives.ask (Leads.bind (leads_require hfound (Leads.pure ?_))))
  cases hcompiled : shader.compiled with
  | true =>
    exact Drives.pure (hok _ _ _ _ hquiet hgrows lt_next ⟨Int.le_refl _, shader, hfound, hstage⟩)
  | false =>
    refine Drives.bind (Drives.ask (Leads.bind (leads_require hfound (Leads.pure ?_))))
    exact Drives.fail (herr _ _ _ _ hquiet hgrows.toStays (hverdict hcompiled) trivial)

/-- A program **links** and may be drawn, or it was turned down. -/
theorem drives_link (hd : d.hasContext = true) {vertex fragment : Handle}
    (hvertex : d.HasShader .vertex vertex) (hfragment : d.HasShader .fragment fragment)
    {ok : Work → Handle → Pipeline → GlDevice → Prop}
    (hok : ∀ w' program owned d', w.Quiet w' → w'.verdict = some true → Grows d d' →
      d.lastHandle < program → d'.Drawable program → ok w' program { s with owned } d')
    (herr : ∀ w' fault owned d', w.Quiet w' → Stays d d' → w'.verdict = some false →
      fault.IsVerdict → err w' fault { s with owned } d') :
    Drives w s d (link vertex fragment) ok err := by
  rw [link]
  refine Drives.bind (Drives.ask (leads_createProgram (Drives.bind (Drives.update ?_))))
  refine Drives.bind (Drives.ask (leads_attachShader Registry.find?_put_self ?_))
  refine Drives.bind (Drives.ask (leads_attachShader Registry.find?_put_self ?_))
  simp only [Registry.put_put, List.nil_append, List.singleton_append]
  have hgrows : ∀ p, Grows d { d with
      lastHandle := d.lastHandle + 1, programs := d.programs.put (d.lastHandle + 1) p } :=
    fun p => Grows.refl.count.putProgram lt_next
  have hfound : ∀ p : GlProgram,
      (d.programs.put (d.lastHandle + 1) p).find? (d.lastHandle + 1) = some p :=
    fun p => Registry.find?_put_self
  refine Drives.bind (Drives.ask (leads_linkProgram ?_ (hfound _) rfl (hvertex.grow (hgrows _))
    (hfragment.grow (hgrows _)) ?_ ?_))
  · exact hd
  · intro w' linked hquiet hverdict
    simp only [Registry.put_put]
    refine Drives.bind (Drives.ask (Leads.bind (leads_require (hfound _) (Leads.pure ?_))))
    refine Drives.pure (hok _ _ _ _ hquiet hverdict (hgrows _) lt_next ?_)
    exact ⟨Int.le_refl _, _, linked, hfound _, rfl, fun e he => absurd he List.not_mem_nil⟩
  · intro w' message hquiet hverdict
    simp only [Registry.put_put]
    refine Drives.bind (Drives.ask (Leads.bind (leads_require (hfound _) (Leads.pure ?_))))
    refine Drives.bind (Drives.ask (Leads.bind (leads_require (hfound _) (Leads.pure ?_))))
    exact Drives.fail (herr _ _ _ _ hquiet (hgrows _).toStays hverdict trivial)

/-- A new buffer is filled. -/
theorem drives_upload (hd : d.hasContext = true) {data : List UInt8}
    {ok : Work → Handle → Pipeline → GlDevice → Prop}
    (hok : ∀ buffer owned d', Grows d d' → d.lastHandle < buffer → d'.Filled buffer →
      ok w buffer { s with owned } d') :
    Drives w s d (upload data) ok err := by
  rw [upload]
  refine Drives.bind (Drives.ask (leads_createBuffer (Drives.bind (Drives.update ?_))))
  refine Drives.bind (Drives.ask (leads_uploadBuffer ?_ Registry.find?_put_self fun number => ?_))
  · exact hd
  have hgrows : Grows d { d with
      lastHandle := d.lastHandle + 1
      buffers := (d.buffers.put (d.lastHandle + 1) none).put (d.lastHandle + 1) (some number) } :=
    (Grows.refl.count.putBuffer lt_next).putBuffer lt_next
  exact Drives.pure (hok _ _ _ hgrows lt_next ⟨Int.le_refl _, number, Registry.find?_put_self⟩)

/-- A program stays fit to be drawn when it is fed from a buffer that was filled. -/
theorem drives_feed {program buffer : Handle} {name : String} (h : d.Drawable program)
    (hbuffer : d.Filled buffer) (hgrows : Grows start d) (hnew : start.lastHandle < program)
    {ok : Work → Int → Pipeline → GlDevice → Prop}
    (hok : ∀ location d', Grows start d' → d'.Drawable program →
      (∀ buffer, d.Filled buffer → d'.Filled buffer) → d'.lastHandle = d.lastHandle →
        d'.hasContext = d.hasContext → ok w location s d') :
    Drives w s d (feed program name buffer) ok err := by
  obtain ⟨hle, p, linked, hp, hlinked, hbindings⟩ := id h
  rw [feed]
  refine Drives.bind (Drives.ask (leads_attributeLocation hp ?_ fun location name => ?_))
  · exact Drives.pure (hok _ d hgrows h (fun _ h => h) rfl rfl)
  have hnamed : ∀ e ∈ p.bindings.entries,
      d.Filled e.2.buffer ∧ ((p.inputs.put location name).find? e.1).isSome = true := fun e he =>
    ⟨(hbindings e he).1, Registry.isSome_find?_put (hbindings e he).2⟩
  by_cases hlocation : location = Device.absent
  · have habsent : (location != Device.absent) = false := bne_eq_false_iff_eq.mpr hlocation
    simp only [habsent, Bool.false_eq_true, if_false]
    exact Drives.pure (hok _ _ (hgrows.putProgram hnew) (drawable_put hle hlinked hnamed)
      (fun _ h => h) rfl rfl)
  · have hpresent : (location != Device.absent) = true := bne_iff_ne.mpr hlocation
    simp only [hpresent, if_true]
    have hformat : formats.lookup components = some "3f" := rfl
    refine Drives.bind (Drives.ask ?_)
    refine leads_bindAttribute Registry.find?_put_self hlocation hformat (Drives.pure ?_)
    simp only [Registry.put_put]
    refine hok _ _ (hgrows.putProgram hnew) (drawable_put hle hlinked fun e he => ?_)
      (fun _ h => h) rfl rfl
    rcases Registry.mem_putIn he with rfl | he
    · refine ⟨hbuffer, ?_⟩
      rw [Registry.find?_put_self]
      rfl
    · exact hnamed e he

/-- The handles of a program are **new**: they were given out since. -/
def New (start d : GlDevice) (p : Program) : Prop :=
  ∀ handle ∈ p.handles, start.lastHandle < handle ∧ handle ≤ d.lastHandle

/-- Where a mesh was put behind a program, the program may still be drawn. -/
theorem drives_bindMesh (hd : d.hasContext = true) {vertex fragment program : Handle}
    {shape : Shape} {mesh : Mesh} (hmesh : Mesh.ofShape shape = .ok mesh)
    (h : d.Drawable program) (hgrows : Grows start d) (hnew : start.lastHandle < program)
    {ok : Work → Program → Pipeline → GlDevice → Prop}
    (hok : ∀ positionBuffer normalBuffer positionLocation normalLocation owned d', Grows start d' →
      d'.Drawable program → d.lastHandle < positionBuffer → positionBuffer ≤ d'.lastHandle →
      d.lastHandle < normalBuffer → normalBuffer ≤ d'.lastHandle →
      ok w {
        vertexShader := vertex, fragmentShader := fragment, program := program
        positionBuffer := positionBuffer, normalBuffer := normalBuffer, shape := shape
        vertexCount := mesh.vertexCount, positionLocation := positionLocation
        normalLocation := normalLocation } { s with owned } d') :
    Drives w s d (bindMesh vertex fragment program shape) ok err := by
  rw [bindMesh, hmesh]
  refine Drives.bind (Drives.pure (Drives.bind (drives_upload hd ?_)))
  intro positionBuffer owned d₁ hgrows₁ hposition hfilled₁
  refine Drives.bind (drives_upload (hgrows₁.hasContext_eq.trans hd) ?_)
  intro normalBuffer owned₂ d₂ hgrows₂ hnormal hfilled₂
  have hgrown := (hgrows.trans hgrows₁).trans hgrows₂
  refine Drives.bind (drives_feed ((h.grow hgrows₁).grow hgrows₂) (hfilled₁.grow hgrows₂) hgrown
    hnew ?_)
  intro positionLocation d₃ hgrows₃ hdrawable₃ hfilled₃ hlast₃ hcontext₃
  refine Drives.bind (drives_feed hdrawable₃ (hfilled₃ _ hfilled₂) hgrows₃ hnew ?_)
  intro normalLocation d₄ hgrows₄ hdrawable₄ hfilled₄ hlast₄ hcontext₄
  refine Drives.pure (hok _ _ _ _ _ d₄ hgrows₄ hdrawable₄ hposition ?_ ?_ ?_)
  · exact (hfilled₄ _ (hfilled₃ _ (hfilled₁.grow hgrows₂))).1
  · exact Int.lt_of_le_of_lt hgrows₁.lastHandle_le hnormal
  · exact (hfilled₄ _ (hfilled₃ _ hfilled₂)).1

/-- All the steps of a build come to a new program that may be drawn, or the latest program was
turned down. -/
theorem drives_assemble (hd : d.hasContext = true) {vertex fragment : String} {shape : Shape}
    {mesh : Mesh} (hmesh : Mesh.ofShape shape = .ok mesh)
    {ok : Work → Program → Pipeline → GlDevice → Prop}
    (hok : ∀ w' q phase owned d', w.Quiet w' → w'.verdict = some true → Stays d d' →
      d'.Drawable q.program → New d d' q → q.shape = shape → ok w' q { s with phase, owned } d')
    (herr : ∀ w' fault phase owned d', w.Quiet w' → Stays d d' → w'.verdict = some false →
      fault.IsVerdict → err w' fault { s with phase, owned } d') :
    Drives w s d (assemble vertex fragment shape) ok err := by
  rw [assemble]
  refine Drives.bind (Drives.update (Drives.bind (drives_compile hd ?_ fun w' fault owned d' =>
    herr w' fault _ owned d')))
  intro w₁ v owned₁ d₁ hquiet₁ hgrows₁ hv hvertex₁
  have hd₁ : d₁.hasContext = true := hgrows₁.hasContext_eq.trans hd
  refine Drives.bind (drives_compile hd₁ ?_ fun w' fault owned d' hquiet hstays =>
    herr w' fault _ owned d' (hquiet₁.trans hquiet) (hgrows₁.toStays.trans hstays))
  intro w₂ f owned₂ d₂ hquiet₂ hgrows₂ hf hfragment₂
  have hd₂ : d₂.hasContext = true := hgrows₂.hasContext_eq.trans hd₁
  have hquiet := hquiet₁.trans hquiet₂
  have hgrows := hgrows₁.trans hgrows₂
  refine Drives.bind (drives_link hd₂ (hvertex₁.grow hgrows₂) hfragment₂ ?_
    fun w' fault owned d' hquiet' hstays =>
      herr w' fault _ owned d' (hquiet.trans hquiet') (hgrows.toStays.trans hstays))
  intro w₃ program owned₃ d₃ hquiet₃ hverdict hgrows₃ hprogram hdrawable₃
  have hd₃ : d₃.hasContext = true := hgrows₃.hasContext_eq.trans hd₂
  refine Drives.bind (Drives.update (Drives.bind (drives_bindMesh hd₃ hmesh hdrawable₃
    (hgrows.trans hgrows₃) (Int.lt_of_le_of_lt hgrows.lastHandle_le hprogram) ?_)))
  intro positionBuffer normalBuffer _ _ owned₄ d₄ hgrows₄ hdrawable₄ hposition hposition₄ hnormal
    hnormal₄
  refine Drives.bind (Drives.update (Drives.pure ?_))
  refine hok _ _ _ _ _ (hquiet.trans hquiet₃) hverdict hgrows₄.toStays hdrawable₄ ?_ rfl
  have hlast : d₂.lastHandle ≤ d₄.lastHandle :=
    Int.le_trans hgrows₃.lastHandle_le (Int.le_trans (Int.le_of_lt hposition) hposition₄)
  have hbuffers : d.lastHandle ≤ d₃.lastHandle := (hgrows.trans hgrows₃).lastHandle_le
  simp only [New, Program.handles, List.forall_mem_cons, List.not_mem_nil, false_imp_iff,
    implies_true, and_true]
  refine ⟨⟨hv, ?_⟩, ⟨?_, ?_⟩, ⟨?_, hdrawable₄.1⟩, ⟨?_, hposition₄⟩, ?_, hnormal₄⟩
  · exact Int.le_trans hvertex₁.1 (Int.le_trans hgrows₂.lastHandle_le hlast)
  · exact Int.lt_of_le_of_lt hgrows₁.lastHandle_le hf
  · exact Int.le_trans hfragment₂.1 hlast
  · exact Int.lt_of_le_of_lt hgrows.lastHandle_le hprogram
  · exact Int.lt_of_le_of_lt hbuffers hposition
  · exact Int.lt_of_le_of_lt hbuffers hnormal

/-! ### Giving back -/

/-- A deletion is carried out, whatever it deletes. -/
theorem drives_delete {o : Owned} {ok : Work → Unit → Pipeline → GlDevice → Prop}
    (hok : ∀ d', Stays d d' → ok w () s d') : Drives w s d (delete o) ok err := by
  obtain ⟨kind, handle⟩ := o
  cases kind with
  | shader => exact Drives.ask (Leads.update (hok _ ⟨rfl, rfl, Int.le_refl _⟩))
  | program => exact Drives.ask (leads_deleteProgram hok)
  | buffer => exact Drives.ask (leads_deleteBuffer hok)

/-- All handles are given back, one after another. -/
theorem drives_releaseEach {owned : List Owned} (howned : s.owned = owned)
    {ok : Work → Unit → Pipeline → GlDevice → Prop}
    (hok : ∀ d', Stays d d' → ok w () { s with owned := [] } d') :
    Drives w s d (releaseEach owned) ok err := by
  induction owned generalizing s d with
  | nil =>
    obtain ⟨phase, owned, program⟩ := s
    obtain rfl : owned = [] := howned
    exact Drives.pure (hok d Stays.refl)
  | cons o rest ih =>
    refine Drives.bind (Drives.update (Drives.bind (drives_delete fun d₁ hstays₁ => ?_)))
    exact ih rfl fun d' hstays => hok d' (hstays₁.trans hstays)

/-- A **teardown** leaves nothing. -/
theorem drives_teardown {ok : Work → Unit → Pipeline → GlDevice → Prop}
    (hok : ∀ d', Stays d d' → ok w () {} d') : Drives w s d teardown ok err := by
  have hrelease : Drives w s d (do
      releaseAll
      update fun p => { p with program := none, phase := .empty }) ok err :=
    Drives.bind (Drives.state_bind (drives_releaseEach rfl fun d' hstays =>
      Drives.update (hok d' hstays)))
  rw [teardown]
  refine Drives.state_bind ?_
  by_cases howned : s.owned.isEmpty = true
  · simp only [howned]
    exact hrelease
  · simp only [howned]
    exact Drives.bind (Drives.tell hrelease)

/-- **A build** from nothing comes to a new program that may be drawn, or the latest program was
turned down and nothing is left. -/
theorem drives_build (hd : d.hasContext = true) {vertex fragment : String} {shape : Shape}
    {mesh : Mesh} (hmesh : Mesh.ofShape shape = .ok mesh)
    {ok : Work → Program → Pipeline → GlDevice → Prop}
    (hok : ∀ w' q owned d', w.Quiet w' → w'.verdict = some true → Stays d d' →
      d'.Drawable q.program → New d d' q → q.shape = shape →
        ok w' q { phase := .active, owned, program := some q } d')
    (herr : ∀ w' fault d', w.Quiet w' → Stays d d' → w'.verdict = some false →
      fault.IsVerdict → err w' fault { phase := .failed } d') :
    Drives w {} d (build vertex fragment shape) ok err := by
  rw [build_eq]
  refine Drives.state_bind ?_
  rw [if_pos rfl, buildAnew]
  refine Drives.bind (Drives.onFault (drives_assemble hd hmesh ?_ ?_))
  · intro w' q phase owned d' hquiet hverdict hstays hdrawable hnew hshape
    exact Drives.bind (Drives.update (Drives.bind (Drives.tell (Drives.pure
      (hok w' q owned d' hquiet hverdict hstays hdrawable hnew hshape)))))
  · intro w' fault phase owned d' hquiet hstays hverdict hfault
    refine Drives.bind (Drives.state_bind (drives_releaseEach rfl fun d'' hstays' => ?_))
    exact Drives.update (herr w' fault d'' hquiet (hstays.trans hstays') hverdict hfault)

end ShaderPreview.Pipeline
