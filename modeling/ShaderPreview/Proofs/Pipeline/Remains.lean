import ShaderPreview.Proofs.Pipeline.Upkeep
import ShaderPreview.Proofs.Pipeline.Verdicts

/-!
# What Is Left of a Shown Program

A pipeline that is active shows a program, and the program says which handles it draws with. These
should all be live. But a teardown deletes them one by one and forgets the program only afterwards,
so that a deletion that is refused leaves the program on show with some of its handles gone: the
newest ones, up to the one whose deletion was refused. A build over an active program begins with a
teardown and does the same.

Nothing else comes between the two. A build shows its program only when it is complete, and a
teardown that comes to its end leaves nothing on show. So a program on show is whole exactly when
the last operation came to its end.

## Main definitions

* `Pipeline.IsShown`: a pipeline has something on show.
* `Pipeline.Shows`: it shows a program of which some handles are gone.

## Main results

* `Pipeline.honours_carryOut`: what is on show after an operation, by how it ended.
* `Pipeline.shown_whole_iff`: when a program on show is whole.
* `Pipeline.shown_half_released`: a program on show that is not.
-/

namespace ShaderPreview.Pipeline

open Procedure Device Contract

variable {relies : List (Exchange Device) → Exchange Device → Prop}
  {sched past : List (Exchange Device)} {s : Pipeline}

/-! ### What is on show -/

/-- A pipeline that **has something on show**: it is active, or it has a program. -/
def IsShown (s : Pipeline) : Prop := s.phase = .active ∨ s.program ≠ none

/-- A pipeline **shows** a program of which some handles, the newest ones, are gone. All of them
were created, and they are different. -/
structure Shows (p : Program) (gone : List Owned) (past : List (Exchange Device)) (s : Pipeline) :
    Prop where
  phase_eq : s.phase = .active
  program_eq : s.program = some p
  owned_eq : p.owned = gone ++ s.owned
  nodup : p.owned.Nodup
  subset_created : p.owned ⊆ created past

/-- What a pipeline has on show, if anything, is a program of which **so much** is gone. -/
def Presents (much : List Owned → Prop) (past : List (Exchange Device)) (s : Pipeline) : Prop :=
  IsShown s → ∃ p gone, much gone ∧ Shows p gone past s

/-- A pipeline without anything on show. -/
theorem not_isShown_iff : ¬ IsShown s ↔ s.phase ≠ .active ∧ s.program = none := by
  rw [IsShown, not_or, ne_eq, not_not]

/-- Where nothing is on show nothing of it is gone. -/
theorem Presents.of_not_isShown {much : List Owned → Prop} (h : ¬ IsShown s) :
    Presents much past s :=
  fun hs => absurd hs h

/-- More is gone when a release is cut short. -/
theorem Presents.cutShort {much : List Owned → Prop} {past' : List (Exchange Device)} {o : Owned}
    {rest : List Owned} (h : Presents much past s) (hcreated : created past ⊆ created past')
    (hsuffix : o :: rest <:+ s.owned) : Presents (· ≠ []) past' { s with owned := rest } := by
  intro hshown
  obtain ⟨p, gone, -, hp⟩ := h hshown
  obtain ⟨before, hbefore⟩ := hsuffix
  refine ⟨p, gone ++ before ++ [o], by simp, hp.phase_eq, hp.program_eq, ?_, hp.nodup,
    List.Subset.trans hp.subset_created hcreated⟩
  rw [hp.owned_eq, ← hbefore]
  simp only [List.append_assoc, List.singleton_append]

/-- Of the handles of a program on show a deletion was asked for those that are gone, and for these
alone. -/
theorem Shows.mem_deleted_iff {p : Program} {gone : List Owned} {o : Owned}
    (h : Shows p gone past s) (hstands : Stands past s.owned) (ho : o ∈ p.owned) :
    o ∈ deleted past ↔ o ∈ gone := by
  have hnodup := h.nodup
  have hcreated := h.subset_created ho
  rw [h.owned_eq] at ho hnodup
  have hlive : o ∈ s.owned ↔ o ∈ created past ∧ o ∉ deleted past :=
    hstands.mem_live_iff.symm.trans mem_live
  constructor
  · intro hdeleted
    exact (List.mem_append.mp ho).resolve_right fun hs => (hlive.mp hs).2 hdeleted
  · intro hgone
    by_contra hdeleted
    exact List.disjoint_of_nodup_append hnodup hgone (hlive.mpr ⟨hcreated, hdeleted⟩)

/-! ### One operation -/

/-- A pipeline whose books balance and that **has on show** what much says. -/
def Displays (much : List Owned → Prop) (sched past : List (Exchange Device)) (s : Pipeline) :
    Prop :=
  Settled sched past s ∧ Presents much past s

/-- An operation is **cut short**: where it leaves something on show, a deletion was refused. -/
def Interrupted (relies : List (Exchange Device) → Exchange Device → Prop)
    (sched past : List (Exchange Device)) (_ : Fault) (s : Pipeline) : Prop :=
  Displays (· ≠ []) sched past s ∧ (IsShown s → DeletionRefusable relies)

/-- Nothing comes on show by the ways in which a pipeline works. -/
theorem upheld_not_isShown : Upheld (lax relies) fun _ s => ¬ IsShown s where
  ask _ _ := honours_perform (fun _ _ _ => trivial) (fun _ _ _ h _ => h) fun _ _ _ h _ => h
  own _ _ _ h := h
  enter _ p phase hphase h := by
    rw [not_isShown_iff] at h ⊢
    exact ⟨hphase, h.2⟩

/-- A teardown leaves nothing on show, or less of it than there was. -/
theorem honours_teardown_displays {much : List Owned → Prop} :
    Honours (accounting relies sched) (Displays much sched) teardown
      (fun past _ s => Balanced sched {} past s) (Interrupted relies sched) := by
  rintro past p ⟨⟨hbalanced, htidy⟩, hpresents⟩
  have hcreated : (teardown p).Honours (lax relies)
      (fun past' _ _ => created past ⊆ created past') past :=
    Dialogue.honours_of_past (P := fun past' => created past ⊆ created past')
      (fun _ _ h => List.Subset.trans h (created_append_singleton ▸ List.subset_append_left _ _))
      (List.Subset.refl _)
  refine ((honours_teardown past p hbalanced).and hcreated fun _ _ h => h).mono (fun _ _ h => h)
    (fun _ _ _ h => h) ?_
  rintro past' (fault | _) s ⟨h, hcreated⟩
  · have hcut : ReleaseCutShort relies sched p past' fault s := h
    obtain ⟨hbalanced', htidy', hrefusable⟩ := hcut.tidy htidy
    obtain ⟨-, o, rest, hsuffix, rfl, -, -⟩ := hcut
    exact ⟨⟨⟨hbalanced', htidy'⟩, hpresents.cutShort hcreated hsuffix⟩, fun _ => hrefusable⟩
  · exact h

/-- Nothing comes on show by a build anew that fails. -/
theorem honours_buildAnew_unshown {vertex fragment : String} {shape : Shape} :
    Honours (lax relies) (fun _ s => ¬ IsShown s) (buildAnew vertex fragment shape)
      (fun _ _ _ => True) fun _ _ s => ¬ IsShown s := by
  have hask : ∀ {call : Device.Call},
      Keeps (lax relies) (fun _ s => ¬ IsShown s) (Device.ask call : DeviceProcedure Pipeline _) :=
    honours_perform (fun _ _ _ => trivial) (fun _ _ _ h _ => h) fun _ _ _ h _ => h
  refine Honours.bind (upheld_not_isShown.assemble_onFault
    (fun _ _ => upheld_not_isShown.link fun _ => hask)
    fun _ => upheld_not_isShown.upload fun _ => hask) fun program => ?_
  exact fun _ _ _ => trivial

/-- A build anew shows a whole program, or nothing. -/
theorem honours_buildAnew_displays {vertex fragment : String} {shape : Shape}
    (hnew : GivesNew relies) :
    Honours (accounting relies sched) (Balanced sched {}) (buildAnew vertex fragment shape)
      (fun past _ s => Displays (· = []) sched past s) (Interrupted relies sched) := by
  have hbuild : Honours (accounting relies sched) (Balanced sched {})
      (buildAnew vertex fragment shape)
      (fun past q s =>
        Balanced sched { phase := .active, owned := q.owned, program := some q } past s)
      (BuildFailed relies sched) := by
    rintro past s ⟨rfl, hstands, hsched⟩
    exact Pipeline.honours_build hnew (fun _ => rfl) past {} ⟨rfl, hstands, hsched⟩
  refine (hbuild.and honours_buildAnew_unshown ?_ fun _ _ h => h).weaken ?_ ?_
  · rintro past s ⟨rfl, -, -⟩
    exact not_isShown_iff.mpr ⟨nofun, rfl⟩
  · rintro past q s ⟨⟨rfl, hstands, hsched⟩, -⟩
    refine ⟨⟨⟨rfl, hstands, hsched⟩, nofun⟩, fun _ => ⟨q, [], rfl, rfl, rfl, rfl, ?_, ?_⟩⟩
    · refine List.nodup_reverse.mp ?_
      rw [← hstands.live_eq]
      exact hstands.created_nodup.filter _
    · exact fun o ho => (mem_live.mp (hstands.mem_live_iff.mpr ho)).1
  · rintro past fault s ⟨⟨hbalanced, htidy, -⟩, hunshown⟩
    exact ⟨⟨⟨hbalanced, htidy⟩, .of_not_isShown hunshown⟩, fun hs => absurd hs hunshown⟩

/-- **What is on show after an operation**: a whole program if it came to its end, one that is not
whole if it was cut short. -/
theorem honours_carryOut (hnew : GivesNew relies) (op : Operation) :
    Honours (accounting relies sched) (Displays (fun _ => True) sched) op.carryOut
      (fun past _ s => Displays (· = []) sched past s) (Interrupted relies sched) := by
  cases op with
  | teardown =>
    refine honours_teardown_displays.weaken_ok ?_
    rintro past _ s ⟨rfl, hstands, hsched⟩
    exact ⟨⟨⟨rfl, hstands, hsched⟩, fun _ => rfl⟩, .of_not_isShown (by simp [not_isShown_iff])⟩
  | build vertex fragment shape =>
    refine Honours.bind ?_ fun _ => honours_pure fun _ _ h => h
    rw [build_eq]
    refine honours_state_bind fun p => ?_
    by_cases hphase : p.phase = .empty
    · rw [if_pos hphase]
      refine (honours_buildAnew_displays hnew).mono ?_ (fun _ _ _ h => h) fun _ _ _ h => h
      rintro past s ⟨rfl, ⟨hbalanced, htidy⟩, -⟩
      rwa [htidy hphase] at hbalanced ⊢
    · rw [if_neg hphase]
      exact Honours.bind (honours_teardown_displays.mono (fun _ _ h => h.2) (fun _ _ _ h => h)
        fun _ _ _ h => h) fun _ => honours_buildAnew_displays hnew

/-! ### One operation after another -/

/-- What is relied on: handles are new, and **what passed** is what the given exchanges say. -/
def FreshAmong (exchanges past : List (Exchange Device)) (x : Exchange Device) : Prop :=
  Fresh past x ∧ x ∈ exchanges

/-- After any operations whatever is on show is a program of which the newest handles may be
gone. -/
theorem displays_of_path {ops : List Operation} {moments : List (Moment Device Pipeline)}
    {results : Except Fault (List (Except Fault Unit))}
    (hpath : Dialogue.Path (attemptAll (ops.map Operation.carryOut) {}) moments results s)
    (hnew : (created (moments.map Moment.exchange)).Nodup) :
    Displays (fun _ => True) [] (moments.map Moment.exchange) s := by
  have hall : Keeps (accounting Fresh []) (Displays (fun _ => True) [])
      (attemptAll (ops.map Operation.carryOut)) := by
    refine keeps_attemptAll fun op hop => ?_
    obtain ⟨op, -, rfl⟩ := List.mem_map.mp hop
    have hmuch : ∀ {much : List Owned → Prop} {past s}, Displays much [] past s →
        Displays (fun _ => True) [] past s := fun h =>
      ⟨h.1, fun hs => have ⟨p, gone, _, hp⟩ := h.2 hs; ⟨p, gone, trivial, hp⟩⟩
    exact (honours_carryOut (fun _ _ h => h) op).weaken (fun _ _ _ h => hmuch h)
      fun _ _ _ h => hmuch h.1
  have hstart : Displays (fun _ => True) [] [] {} :=
    ⟨⟨⟨rfl, stands_nil, rfl⟩, fun _ => rfl⟩, .of_not_isShown (by simp [not_isShown_iff])⟩
  exact (hall.path_end hstart hpath fun before m after he => fresh_of_nodup hnew he).2

/-- **What is on show** after any operations, whatever the device does, as long as the handles that
it creates are new. It is a program that is active, of which a deletion was asked for the newest
handles, and for these alone. The program is whole, no deletion having been asked for, exactly when
the last operation came to its end; if it did not, then because the device refused a deletion. -/
theorem shown_whole_iff {ops : List Operation} {op : Operation}
    {history moments : List (Moment Device Pipeline)}
    {results : Except Fault (List (Except Fault Unit))} {result : Except Fault Unit}
    {s s' : Pipeline}
    (hhistory : Dialogue.Path (attemptAll (ops.map Operation.carryOut) {}) history results s)
    (hop : Dialogue.Path (op.carryOut s) moments result s')
    (hnew : (created ((history ++ moments).map Moment.exchange)).Nodup)
    (hshown : s'.phase = .active ∨ s'.program ≠ none) :
    ∃ p gone, s'.phase = .active ∧ s'.program = some p ∧ p.owned = gone ++ s'.owned ∧
      (∀ o ∈ p.owned, o ∈ deleted ((history ++ moments).map Moment.exchange) ↔ o ∈ gone) ∧
      ((∀ o ∈ p.owned, o ∉ deleted ((history ++ moments).map Moment.exchange)) ↔
        result = .ok ()) ∧
      (result ≠ .ok () →
        ∃ m ∈ moments, m.call.deleted?.isSome ∧ ∃ fault, m.reply = .error fault) := by
  rw [List.map_append] at hnew ⊢
  have hpast : (created (history.map Moment.exchange)).Nodup := by
    rw [created, List.filterMap_append] at hnew
    exact (List.nodup_append.mp hnew).1
  have hrelied : (accounting (FreshAmong (moments.map Moment.exchange)) []).Relied
      (history.map Moment.exchange) moments := by
    intro before m after he
    refine ⟨fresh_of_nodup hnew he, ?_⟩
    rw [he]
    exact List.mem_map_of_mem (List.mem_append_right _ List.mem_cons_self)
  obtain ⟨-, hend⟩ := (honours_carryOut (fun _ _ h => h.1) op _ s
    (displays_of_path hhistory hpast)).path hop hrelied
  rcases result with fault | _
  · obtain ⟨⟨⟨⟨-, hstands, -⟩, -⟩, hpresents⟩, hrefusable⟩ := hend
    obtain ⟨p, gone, hgone, hp⟩ := hpresents hshown
    refine ⟨p, gone, hp.phase_eq, hp.program_eq, hp.owned_eq, fun o ho =>
      hp.mem_deleted_iff hstands ho, iff_of_false (fun hwhole => ?_) nofun, fun _ => ?_⟩
    · obtain ⟨o, ho⟩ := List.exists_mem_of_ne_nil gone hgone
      have hmem : o ∈ p.owned := hp.owned_eq ▸ List.mem_append_left _ ho
      exact hwhole o hmem ((hp.mem_deleted_iff hstands hmem).mpr ho)
    · obtain ⟨past, call, fault, hdeleted, -, hmem⟩ := hrefusable hshown
      obtain ⟨⟨state, call', reply⟩, hm, he⟩ := List.mem_map.mp hmem
      obtain ⟨rfl, hreply⟩ := Exchange.mk.inj he
      exact ⟨_, hm, hdeleted, fault, eq_of_heq hreply⟩
  · obtain ⟨⟨⟨-, hstands, -⟩, -⟩, hpresents⟩ := hend
    obtain ⟨p, gone, rfl, hp⟩ := hpresents hshown
    refine ⟨p, [], hp.phase_eq, hp.program_eq, hp.owned_eq, fun o ho =>
      hp.mem_deleted_iff hstands ho, iff_of_true (fun o ho hdeleted => ?_) rfl, absurd rfl⟩
    exact List.not_mem_nil ((hp.mem_deleted_iff hstands ho).mp hdeleted)

/-- A device that obliges, but refuses to delete **the newest buffer** of a first program. -/
def keepsBuffer : Provider Device Handle := obliging fun call => call = .deleteBuffer 5

/-- A teardown that is cut short at the first deletion leaves a program on show whose newest buffer
was passed to a deletion. -/
theorem shown_half_released :
    let run := (attemptAll ([.build "" "" .cube, .teardown].map Operation.carryOut) {}).run
      keepsBuffer 0
    run.state.phase = .active ∧ ∃ p : Program, run.state.program = some p ∧
      ⟨.buffer, 5⟩ ∈ p.owned ∧ ⟨.buffer, 5⟩ ∈ deleted (run.moments.map Moment.exchange) := by
  intro run
  exact ⟨by decide, ⟨1, 2, 3, 4, 5, .cube, 36, -1, -1⟩, by decide, by decide, by decide⟩

/-- A build and then a teardown that is cut short at the first deletion: one handle is gone. -/
theorem shown_whole_iff_keepsBuffer :
    let build := (attemptAll ([.build "" "" .cube].map Operation.carryOut) {}).run keepsBuffer 0
    let teardown := (Operation.teardown.carryOut build.state).run keepsBuffer build.provider
    teardown.state.phase = .active ∧
      ∃ (p : Program) (gone : List Owned), p.owned = gone ++ teardown.state.owned ∧
        ¬ ∀ o ∈ p.owned, o ∉ deleted ((build.moments ++ teardown.moments).map Moment.exchange) := by
  intro build teardown
  have hphase : teardown.state.phase = .active := by decide
  have hnew : (created ((build.moments ++ teardown.moments).map Moment.exchange)).Nodup := by decide
  have hresult : teardown.result ≠ .ok () := by decide
  obtain ⟨p, gone, -, -, howned, -, hwhole, -⟩ := shown_whole_iff (Dialogue.path_run _ _ _)
    (Dialogue.path_run _ _ _) hnew (.inl hphase)
  exact ⟨hphase, p, gone, howned, fun h => hresult (hwhole.mp h)⟩

end ShaderPreview.Pipeline
