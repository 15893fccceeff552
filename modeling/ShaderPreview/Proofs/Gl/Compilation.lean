import ShaderPreview.Proofs.Gl.Tables
import ShaderPreview.Proofs.Shader.Versions

/-!
# What the Context is Given to Compile

A device has the context link a whole program twice over: once when it tries out a shader, and once
when it links the program itself. Both times the fragment stage is the source that the device keeps
for the shader, which is the one it was given, with a version line in front if it had none. So what
is known of that source is known of both.

## Main definitions

* `Platform.links`: the programs that the context was asked to link.
* `GlDevice.stagesOf`: the program that some shaders make.

## Main results

* `GlDevice.honours_trial_links`: a trial links the trial program, and no other.
* `GlDevice.honours_compileShader_links`: the source that is tried out is kept.
* `GlDevice.honours_linkProgram_links`: a program is linked from the sources that are kept.
* `GlDevice.versions_agree`: a mended source has the same version line wherever it is read.
-/

namespace ShaderPreview

/-- The programs that the context was **asked to link**, each by the sources of its stages. -/
def Platform.links (past : List (Exchange Platform)) : List (String × Option String) :=
  past.filterMap fun x =>
    match x.call with
    | .linkProgram vertex fragment => some (vertex, fragment)
    | _ => none

namespace GlDevice

open Procedure Contract Platform

variable {d : GlDevice} {handle : Handle} {s : GlShader} {given : List (String × Option String)}

/-- A device in a given state, after **some programs were linked**. -/
def Given (given : List (String × Option String)) (d : GlDevice) (past : List (Exchange Platform))
    (s : GlDevice) : Prop :=
  links past = given ∧ s = d

/-! ### Trials -/

/-- What a device does in its own state is known from the state that it is given in. -/
theorem honours_given_state {α : Type} {f : GlDevice → GlProcedure α}
    {ok : List (Exchange Platform) → α → GlDevice → Prop}
    {err : List (Exchange Platform) → Fault → GlDevice → Prop}
    (h : Honours free (Given given d) (f d) ok err) :
    Honours free (Given given d) (state >>= f) ok err := by
  refine honours_state_bind fun w => ?_
  rintro past _ ⟨rfl, hlinks, rfl⟩
  exact h past _ ⟨hlinks, rfl⟩

/-- Asking for the context finds out whether it is there. -/
theorem honours_requireContext :
    Honours free (Given given d) requireContext
      (fun past _ s => Given given d past s ∧ d.hasContext = true)
      (fun past _ s => Given given d past s ∧ d.hasContext = false) := by
  rw [requireContext]
  refine honours_state_bind fun w => ?_
  rintro past s ⟨rfl, hlinks, rfl⟩
  cases s.hasContext with
  | true => exact ⟨⟨hlinks, rfl⟩, rfl⟩
  | false => exact ⟨⟨hlinks, rfl⟩, rfl⟩

/-- Giving something back links nothing. -/
theorem keeps_given_releaseObject {object : Option GpuObject} :
    Keeps free (Given given d) (releaseObject object) := by
  cases object with
  | none => exact honours_pure fun _ _ h => h
  | some object =>
    refine honours_perform (fun _ _ _ => trivial) ?_ ?_ <;>
    · rintro past s _ ⟨hlinks, rfl⟩ -
      refine ⟨?_, rfl⟩
      rw [links, Exchange.filterMap_append_singleton, ← links, hlinks]
      exact List.append_nil _

/-- A request to link is one more, however it is answered. -/
theorem honours_given_link {vertex : String} {fragment : Option String} :
    Honours free (Given given d) (Platform.ask (.linkProgram vertex fragment)).attempt
      (fun past _ s => Given (given ++ [(vertex, fragment)]) d past s) fun _ _ _ => False := by
  refine Honours.attempt (honours_perform (fun _ _ _ => trivial) ?_ ?_) <;>
  · rintro past s _ ⟨hlinks, rfl⟩ -
    refine ⟨?_, rfl⟩
    rw [links, Exchange.filterMap_append_singleton, ← links, hlinks]
    rfl

/-- What a device **tries out** a shader in, as long as it has its context. -/
def tried (d : GlDevice) (s : GlShader) : List (String × Option String) :=
  if d.hasContext then [trialProgram d.glslVersion s] else []

/-- A **trial** links the trial program, and no other. -/
theorem honours_trial_links :
    Honours free (Given [] d) (trial s) (fun past _ s' => Given (d.tried s) d past s')
      (fun past _ s' => Given (d.tried s) d past s') := by
  rw [trial]
  refine honours_given_state ?_
  refine Honours.bind (honours_requireContext.weaken_err ?_) fun _ =>
    honours_given fun hcontext => ?_
  · rintro past _ _ ⟨⟨hlinks, rfl⟩, hcontext⟩
    exact ⟨by rw [hlinks, tried, hcontext]; rfl, rfl⟩
  have htried : d.tried s = [trialProgram d.glslVersion s] := if_pos hcontext
  rw [htried]
  refine Honours.bind (honours_given_link.weaken_err fun _ _ _ h => h.elim) fun r => ?_
  rcases r with fault | linked
  · cases fault with
    | rejected message =>
      by_cases hcompiler : Text.contains compilerFailed.toList message.toList = true
      · simp only [hcompiler, if_true]
        exact honours_pure fun _ _ h => h
      · simp only [hcompiler]
        exact Honours.bind (honours_tell fun _ _ h => h) fun _ => honours_pure fun _ _ h => h
    | _ => exact honours_fail fun _ _ h => h
  · exact Honours.bind keeps_given_releaseObject fun _ => honours_pure fun _ _ h => h

/-! ### Compiling -/

/-- A device **keeps a source** for a shader of a stage. -/
def KeepsSource (d : GlDevice) (handle : Handle) (stage : Stage) (source : String) : Prop :=
  ∃ s, d.shaders.find? handle = some s ∧ s.stage = stage ∧ s.source = source

/-- What has just been put under a handle is kept. -/
theorem keepsSource_put {shaders : Registry GlShader} :
    KeepsSource { d with shaders := shaders.put handle s } handle s.stage s.source :=
  ⟨s, by rw [Registry.find?_put, if_pos rfl], rfl, rfl⟩

/-- Keeping a shader links nothing. -/
theorem honours_given_keepShader {err : List (Exchange Platform) → Fault → GlDevice → Prop} :
    Honours free (Given given d) (keepShader handle s)
      (fun past _ d' => Given given { d with shaders := d.shaders.put handle s } past d') err :=
  honours_update fun _ _ h =>
    ⟨h.1, congrArg (fun d : GlDevice => { d with shaders := d.shaders.put handle s }) h.2⟩

/-- **Compiling** tries out the source with its version line, and keeps it whatever comes of it. -/
theorem honours_compileShader_links (hs : d.shaders.find? handle = some s) {source t : String}
    (ht : String.ofList (Version.complete d.glslVersion source.toList) = t) :
    Honours free (Given [] d) (compileShader handle source)
      (fun past _ d' => links past = d.tried { s with source := t } ∧
        d'.KeepsSource handle s.stage t)
      (fun past _ d' => links past = d.tried { s with source := t } ∧
        d'.KeepsSource handle s.stage t) := by
  rw [compileShader]
  refine Honours.bind ((honours_require fun _ _ h => h.2).weaken_err ?_) fun found => ?_
  · rintro past fault d' ⟨-, hnone⟩
    rw [hs] at hnone
    cases hnone
  refine honours_given fun hfound => ?_
  obtain rfl : found = s := Option.some.inj (hfound.symm.trans hs)
  refine honours_given_state ?_
  rw [ht]
  refine Honours.bind (honours_given_keepShader (s := { found with source := t })) fun _ => ?_
  refine Honours.bind (honours_trial_links.weaken_err ?_) fun diagnostic => ?_
  · rintro past _ _ ⟨hlinks, rfl⟩
    exact ⟨hlinks, keepsSource_put⟩
  cases diagnostic with
  | none =>
    refine honours_update ?_
    rintro past _ ⟨hlinks, rfl⟩
    exact ⟨hlinks, keepsSource_put⟩
  | some message =>
    refine honours_update ?_
    rintro past _ ⟨hlinks, rfl⟩
    exact ⟨hlinks, keepsSource_put⟩

/-! ### Linking -/

/-- The program that some shaders **make**: for each stage the source of the last one counts. -/
def stagesOf (shaders : List GlShader) : List (String × Option String) :=
  match sourceOf .vertex shaders, sourceOf .fragment shaders with
  | some vertex, some fragment => [(vertex, some fragment)]
  | _, _ => []

/-- The program that a device **links** for a program: none if one of its shaders is gone, or the
context. -/
def linked (d : GlDevice) (p : GlProgram) : List (String × Option String) :=
  if d.hasContext ∧ ∀ shader ∈ p.shaders, (d.shaders.find? shader).isSome then
    stagesOf (p.shaders.filterMap d.shaders.find?)
  else []

/-- The shaders with some handles are found, or one of them is gone. -/
theorem honours_shadersOf {handles : List Handle} :
    Honours free (Given given d) (shadersOf handles)
      (fun past shaders s => Given given d past s ∧ (∀ h ∈ handles, (d.shaders.find? h).isSome) ∧
        shaders = handles.filterMap d.shaders.find?)
      (fun past _ s => Given given d past s ∧ ¬∀ h ∈ handles, (d.shaders.find? h).isSome) := by
  induction handles with
  | nil => exact honours_pure fun _ _ h => ⟨h, List.forall_mem_nil _, rfl⟩
  | cons handle rest ih =>
    refine Honours.bind ((honours_require fun _ _ h => h.2).weaken_err ?_) fun s => ?_
    · rintro past _ _ ⟨h, hnone⟩
      exact ⟨h, fun hall => by simp [hnone] at hall⟩
    refine honours_given fun hfound => ?_
    refine Honours.bind (ih.weaken_err ?_) fun shaders => ?_
    · rintro past _ _ ⟨h, hgone⟩
      exact ⟨h, fun hall => hgone (List.forall_mem_cons.mp hall).2⟩
    · refine honours_pure ?_
      rintro past _ ⟨h, hall, rfl⟩
      refine ⟨h, List.forall_mem_cons.mpr ⟨by rw [hfound]; rfl, hall⟩, ?_⟩
      rw [List.filterMap_cons_some hfound]

/-- Linking some shaders links the program that they make. -/
theorem honours_linkShaders_links {shaders : List GlShader} :
    Honours free (Given [] d) (linkShaders shaders)
      (fun past _ s => Given (if d.hasContext then stagesOf shaders else []) d past s)
      (fun past _ s => Given (if d.hasContext then stagesOf shaders else []) d past s) := by
  rw [linkShaders]
  refine Honours.bind (honours_requireContext.weaken_err ?_) fun _ =>
    honours_given fun hcontext => ?_
  · rintro past _ _ ⟨⟨hlinks, rfl⟩, hcontext⟩
    exact ⟨by rw [hlinks, hcontext]; rfl, rfl⟩
  rw [hcontext, if_pos rfl, stagesOf]
  cases sourceOf .vertex shaders with
  | none => exact honours_pure fun _ _ h => h
  | some vertex =>
    cases sourceOf .fragment shaders with
    | none => exact honours_pure fun _ _ h => h
    | some fragment =>
      refine Honours.bind (honours_given_link.weaken_err fun _ _ _ h => h.elim) fun r => ?_
      rcases r with fault | linked
      · cases fault with
        | rejected message => exact honours_pure fun _ _ h => h
        | _ => exact honours_fail fun _ _ h => h
      · exact honours_pure fun _ _ h => h

/-- **Linking a program** links it from the sources that the device keeps. -/
theorem honours_linkProgram_links {p : GlProgram} (hp : d.programs.find? handle = some p) :
    Honours free (Given [] d) (linkProgram handle) (fun past _ _ => links past = d.linked p)
      (fun past _ _ => links past = d.linked p) := by
  rw [linkProgram]
  refine Honours.bind ((honours_require fun _ _ h => h.2).weaken_err ?_) fun found => ?_
  · rintro past fault d' ⟨-, hnone⟩
    rw [hp] at hnone
    cases hnone
  refine honours_given fun hfound => ?_
  obtain rfl : found = p := Option.some.inj (hfound.symm.trans hp)
  refine Honours.bind (honours_shadersOf.weaken_err ?_) fun shaders => ?_
  · rintro past _ _ ⟨⟨hlinks, -⟩, hgone⟩
    rw [hlinks, linked, if_neg fun h => hgone h.2]
  refine honours_given ?_
  rintro ⟨hall, rfl⟩
  have hlinked : d.linked found =
      if d.hasContext then stagesOf (found.shaders.filterMap d.shaders.find?) else [] := by
    simp only [linked, and_iff_left hall]
  rw [hlinked]
  refine Honours.bind (honours_linkShaders_links.weaken_err fun _ _ _ h => h.1) fun r => ?_
  cases r with
  | ok linked => exact honours_update fun _ _ h => h.1
  | error message => exact honours_update fun _ _ h => h.1

/-- Of the shaders of a program the last fragment shader counts. -/
theorem sourceOf_of_last {before after : List Handle} {t : String}
    (hkept : d.KeepsSource handle .fragment t)
    (hafter : ∀ h ∈ after, ∀ s, d.shaders.find? h = some s → s.stage ≠ .fragment) :
    sourceOf .fragment ((before ++ handle :: after).filterMap d.shaders.find?) = some t := by
  obtain ⟨s, hs, hstage, rfl⟩ := hkept
  have hlater :
      (after.filterMap d.shaders.find?).reverse.find? (·.stage == .fragment) = none := by
    rw [List.find?_eq_none]
    intro s' hs'
    obtain ⟨h, hh, hfind⟩ := List.mem_filterMap.mp (List.mem_reverse.mp hs')
    simpa using hafter h hh s' hfind
  rw [sourceOf, List.filterMap_append, List.filterMap_cons_some hs, List.reverse_append,
    List.reverse_cons, List.find?_append, List.find?_append, hlater]
  simp [hstage]

/-- All that is linked for a program has its fragment stage. -/
theorem snd_of_mem_linked {p : GlProgram} {x : String × Option String} (hx : x ∈ d.linked p) :
    x.2 = sourceOf .fragment (p.shaders.filterMap d.shaders.find?) := by
  rw [linked] at hx
  split at hx
  · rw [stagesOf] at hx
    split at hx
    case h_1 vertex fragment hvertex hfragment =>
      rw [List.mem_singleton.mp hx, hfragment]
    case h_2 => exact absurd hx List.not_mem_nil
  · exact absurd hx List.not_mem_nil

/-! ### Version lines -/

section VersionLines

open Version Text

/-- Mending and the device **agree on the version line** of a source, whatever blanks stand around
it. With a configured version, what the device makes of the mended source opens with a version line,
which is the source's own, up to the blanks behind it, or else states the configured number. A
precision statement stands below it, and the vertex stage of a trial starts with the same line. With
no configured version the mended source stays as it is, and the vertex stage states a version
exactly when it does. This text is the fragment stage of the trial, and the fragment stage of each
program that is linked with the shader. -/
theorem versions_agree (source : String) {precision : String}
    (h : precision.toList ∈ precisionWords) (d : GlDevice) :
    let mended := (Repair.mend source precision).source
    let t := complete d.glslVersion mended.toList
    (∀ n, d.glslVersion = some n → ∃ line, Repair.Opens line t ∧ "#version".toList <+: line ∧
      ("#version".toList <+: trim source.toList →
        trimEnd line = trimEnd (Repair.lineOf source)) ∧
      (¬"#version".toList <+: trim source.toList →
        line = "#version ".toList ++ (toString n).toList) ∧
      trialVertex (some n) t = line ++ '\n' :: plainVertex) ∧
    (d.glslVersion = none → t = mended.toList ∧
      ("#version".toList <+: trimStart (trialVertex none t) ↔
        "#version".toList <+: trimStart t)) ∧
    (∀ handle s, d.shaders.find? handle = some s → s.stage = .fragment →
      ∀ moments result final, Dialogue.Path (compileShader handle mended d) moments result final →
        links (moments.map Moment.exchange) = (if d.hasContext then
          [(String.ofList (trialVertex d.glslVersion t), some (String.ofList t))] else []) ∧
        final.KeepsSource handle .fragment (String.ofList t)) ∧
    ∀ (d' : GlDevice) (handle program : Handle) (p : GlProgram) (before after : List Handle),
      d'.KeepsSource handle .fragment (String.ofList t) → d'.programs.find? program = some p →
      p.shaders = before ++ handle :: after →
      (∀ h ∈ after, ∀ s, d'.shaders.find? h = some s → s.stage ≠ .fragment) →
      ∀ moments result final, Dialogue.Path (linkProgram program d') moments result final →
        links (moments.map Moment.exchange) = d'.linked p ∧
        ∀ x ∈ links (moments.map Moment.exchange), x.2 = some (String.ofList t) := by
  intro mended t
  have hheaded := Repair.headed_mend source h
  have hv := Repair.isVersion_versionSplit (trim source.toList)
  rw [Repair.versionSplit_trim] at hheaded hv
  have hfree : ∀ moments : List (Moment Platform GlDevice), free.Relied [] moments :=
    fun _ _ _ _ _ => trivial
  refine ⟨fun n hn => ?_, fun hnone => ?_, ?_, ?_⟩
  · have ht : t = complete (some n) mended.toList := by rw [← hn]
    obtain ⟨line, hopens, hdirective, hown, hconfigured, htrial⟩ := complete_some hheaded hv n
    rw [ht]
    refine ⟨line, hopens, hdirective, fun hp => hown ?_, fun hp => ?_, htrial⟩
    · rw [Repair.lineOf, Repair.headOf_of_isPrefix hp]
      exact Repair.version_ne_nil hp
    · rw [← line_eq]
      refine hconfigured ?_
      rw [Repair.lineOf, Repair.headOf_of_not_isPrefix hp]
      rfl
  · have ht : t = mended.toList := by
      show complete d.glslVersion mended.toList = mended.toList
      rw [hnone]
      rfl
    exact ⟨ht, trialVertex_none t⟩
  · intro handle s hs hstage moments result final hpath
    obtain ⟨-, hlinks, hkept⟩ := (honours_compileShader_links hs rfl).path_end ⟨rfl, rfl⟩ hpath
      (hfree moments)
    rw [hstage] at hkept
    refine ⟨?_, hkept⟩
    rw [List.nil_append] at hlinks
    rw [hlinks, tried, trialProgram]
    simp only [hstage, String.toList_ofList]
    rfl
  · intro d' handle program p before after hkept hp hshaders hafter moments result final hpath
    obtain ⟨-, hlinks⟩ := (honours_linkProgram_links hp).path_end ⟨rfl, rfl⟩ hpath (hfree moments)
    rw [List.nil_append] at hlinks
    refine ⟨hlinks, fun x hx => ?_⟩
    rw [hlinks] at hx
    rw [snd_of_mem_linked hx, hshaders, sourceOf_of_last hkept hafter]

/-- A source with blanks all around its version line is **tried out beside the same line**. One that
has no version line is tried out, and linked, with that of the configured version. -/
theorem versions_agree_untrimmed :
    let own := "\n #version 330 \r\n\n precision lowp float;\n"
    let plain := "void main() \x7b\x7d"
    let stated := "#version 130\nprecision highp float;\nvoid main() \x7b\x7d"
    let d : GlDevice := { view := .pixels 1 1, shaders := Registry.put {} 2 { stage := .fragment } }
    (∃ line, Repair.Opens line own.toList ∧ trimEnd line = "#version 330".toList) ∧
    (∀ moments result final,
      Dialogue.Path (compileShader 2 (Repair.mend own "highp").source d) moments result final →
      links (moments.map Moment.exchange) =
        [(String.ofList ("#version 330 \r\n".toList ++ plainVertex), some own)] ∧
      final.KeepsSource 2 .fragment own) ∧
    Repair.Opens "#version 130".toList stated.toList ∧
    (∀ moments result final,
      Dialogue.Path (compileShader 2 (Repair.mend plain "highp").source d) moments result final →
      links (moments.map Moment.exchange) =
        [(String.ofList ("#version 130\n".toList ++ plainVertex), some stated)] ∧
      final.KeepsSource 2 .fragment stated) ∧
    let vertex : GlShader := { stage := .vertex, source := "void main() \x7b\x7d" }
    let d' : GlDevice :=
      { view := .pixels 1 1
        shaders := (Registry.put {} 1 vertex).put 2 { stage := .fragment, source := stated }
        programs := Registry.put {} 3 { shaders := [1, 2] } }
    ∀ moments result final, Dialogue.Path (linkProgram 3 d') moments result final →
      links (moments.map Moment.exchange) = [(vertex.source, some stated)] := by
  intro own plain stated d
  have hword : "highp".toList ∈ precisionWords := by decide
  obtain ⟨hown, -, hcompile, -⟩ := versions_agree own hword d
  obtain ⟨hplain, -, hcompile', hlink⟩ := versions_agree plain hword d
  have ht : complete d.glslVersion (Repair.mend own "highp").source.toList = own.toList := by
    decide +kernel
  have ht' : complete d.glslVersion (Repair.mend plain "highp").source.toList = stated.toList := by
    decide +kernel
  have htrial : trialVertex d.glslVersion own.toList =
      "#version 330 \r\n".toList ++ plainVertex := by decide +kernel
  have htrial' : trialVertex d.glslVersion stated.toList =
      "#version 130\n".toList ++ plainVertex := by decide +kernel
  rw [ht] at hown hcompile
  rw [ht'] at hplain hcompile' hlink
  rw [htrial, String.ofList_toList] at hcompile
  rw [htrial', String.ofList_toList] at hcompile'
  rw [String.ofList_toList] at hlink
  refine ⟨?_, hcompile 2 { stage := .fragment } rfl rfl, ?_,
    hcompile' 2 { stage := .fragment } rfl rfl, ?_⟩
  · obtain ⟨line, hopens, -, htrim, -⟩ := hown 130 rfl
    refine ⟨line, hopens, ?_⟩
    rw [htrim (by decide +kernel)]
    decide +kernel
  · obtain ⟨line, hopens, -, -, hline, -⟩ := hplain 130 rfl
    rw [hline (by decide +kernel)] at hopens
    exact hopens
  · intro vertex d' moments result final hpath
    have hkept : d'.KeepsSource 2 .fragment stated := ⟨_, rfl, rfl, rfl⟩
    have hlinked : d'.linked { shaders := [1, 2] } = [(vertex.source, some stated)] := by
      decide +kernel
    obtain ⟨hlinks, -⟩ := hlink d' 2 3 _ [1] [] hkept rfl rfl (List.forall_mem_nil _)
      moments result final hpath
    rw [hlinks, hlinked]

end VersionLines

end GlDevice

end ShaderPreview
