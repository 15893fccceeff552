import Mathlib.Data.List.Nodup
import Mathlib.Data.List.Range
import ShaderPreview.Frame.Script

/-!
# What a Refresh Does

During a refresh the callbacks change the table from which they are called. What a callback does is
known from its script: the tokens that it takes out and the callbacks that it puts in, up to the
point where it raises. So a refresh can be foretold. A callback of the table **has its turn** unless
one that ran before it raised or took it out; the table that is left is known from the **events** of
those that ran, in which a callback is lost exactly when its token is taken out later on.

The foretelling goes wrong where two callbacks share a token, or where a token is handed out that an
old callback has. Tokens are handed out in counting order, so neither happens over any run.

## Main definitions

* `TableEvent`, `FrameTable.endure`: what happens to a table, and what it leaves of it.
* `Rehearsal.turns`: the callbacks that run in a refresh.
* `Rehearsal.Step`, `Rehearsal.handedOut`: what is done to a rehearsal, and the tokens handed out.

## Main results

* `FrameTable.endure_append`: events one after another.
* `Rehearsal.actAll_eq`: what a callback does to its table is what its script says.
* `Rehearsal.dispatch_foretold`: the outcome of a refresh after any run.
-/

namespace ShaderPreview

/-! ### Events -/

/-- What **happens to a table**: a callback is put in under a new token, or a token is taken out. -/
inductive TableEvent where
  | registered (token : Nat) (script : Script)
  | cancelled (token : Nat)

namespace TableEvent

variable {events later : List TableEvent} {token : Nat}

/-- Whether a token is taken out. -/
def cancels (token : Nat) : TableEvent → Bool
  | .registered .. => false
  | .cancelled other => other == token

/-- The callback that is put in, with its token. -/
def registration? : TableEvent → Option (Nat × Script)
  | .registered token script => some (token, script)
  | .cancelled _ => none

/-- The callbacks that are **put in**, in order. -/
def registrations (events : List TableEvent) : List (Nat × Script) :=
  events.filterMap registration?

/-- The callbacks that are put in and **not taken out** later on, in order. -/
def newcomers : List TableEvent → List (Nat × Script)
  | [] => []
  | .cancelled _ :: rest => newcomers rest
  | .registered token script :: rest =>
    if rest.any (cancels token) then newcomers rest else (token, script) :: newcomers rest

/-- What is put in early stays unless it is taken out later, and what is put in later comes after
it. -/
theorem newcomers_append : newcomers (events ++ later) =
    (newcomers events).filter (fun e => !later.any (cancels e.1)) ++ newcomers later := by
  induction events with
  | nil => rfl
  | cons event events ih =>
    cases event with
    | cancelled other => exact ih
    | registered token script =>
      rw [List.cons_append, newcomers, newcomers, List.any_append]
      cases hsoon : events.any (cancels token) with
      | true => exact ih
      | false =>
        cases hlater : later.any (cancels token) with
        | true => simpa [hlater] using ih
        | false => simpa [hlater] using ih

/-- What is put in and not taken out was put in. -/
theorem newcomers_sublist : (newcomers events).Sublist (registrations events) := by
  induction events with
  | nil => exact List.Sublist.refl _
  | cons event events ih =>
    cases event with
    | cancelled other => exact ih
    | registered token script =>
      rw [newcomers]
      split
      · exact ih.cons _
      · exact ih.cons_cons _

end TableEvent

namespace FrameTable

open TableEvent

variable {t : FrameTable Script} {events later : List TableEvent}

/-- What events **leave of a table**: the old entries that are not taken out, and then the new ones
that are not. -/
def endure (t : FrameTable Script) (events : List TableEvent) : FrameTable Script where
  entries := t.entries.filter (fun e => !events.any (cancels e.1)) ++ newcomers events
  nextToken := t.nextToken + (registrations events).length

/-- Where nothing happens a table stays as it is. -/
@[simp] theorem endure_nil : t.endure [] = t := by
  simp [endure, newcomers, registrations]

/-- Events **one after another**. -/
theorem endure_append : t.endure (events ++ later) = (t.endure events).endure later := by
  simp only [endure, newcomers_append, registrations, List.filterMap_append, List.length_append,
    List.filter_append, List.filter_filter, List.any_append, Bool.not_or, List.append_assoc,
    Nat.add_assoc, Bool.and_comm]

/-- Registering is one event. -/
theorem register_eq_endure (script : Script) :
    (t.register script).2 = t.endure [.registered t.nextToken script] := by
  simp [register, endure, newcomers, registrations, registration?, cancels]

/-- Cancelling is one event. -/
theorem cancel_eq_endure (token : Nat) : t.cancel token = t.endure [.cancelled token] := by
  have hsame : ∀ e : Nat × Script, (e.1 != token) = !(token == e.1) := by
    intro e
    rw [bne, Bool.beq_comm]
  simp [cancel, endure, newcomers, registrations, registration?, cancels, hsame]

/-- A callback that is put in first is registered, and the rest happens after that. -/
theorem endure_registered (script : Script) :
    t.endure (.registered t.nextToken script :: later) = (t.register script).2.endure later := by
  rw [register_eq_endure, ← endure_append, List.singleton_append]

/-- A token that is taken out first is cancelled, and the rest happens after that. -/
theorem endure_cancelled (token : Nat) :
    t.endure (.cancelled token :: later) = (t.cancel token).endure later := by
  rw [cancel_eq_endure, ← endure_append, List.singleton_append]

end FrameTable

/-! ### Scripts -/

namespace Action

/-- Whether an action raises. -/
def isRaise : Action → Bool
  | .raise => true
  | _ => false

/-- Whether an action of the callback with the first token **takes out** the second token. -/
def cancels (own token : Nat) : Action → Bool
  | .cancel other => other == token
  | .cancelSelf => own == token
  | _ => false

/-- The **events** of the actions of a callback with a token of its own, up to one that raises, when
the given token is the next one. -/
def events (own : Nat) : Nat → List Action → List TableEvent
  | _, [] => []
  | next, .cancel token :: rest => .cancelled token :: events own next rest
  | next, .cancelSelf :: rest => .cancelled own :: events own next rest
  | next, .register name actions :: rest =>
    .registered next ⟨name, actions⟩ :: events own (next + 1) rest
  | _, .raise :: _ => []

end Action

namespace Script

/-- Whether a callback raises. -/
def raises (s : Script) : Bool := s.actions.any Action.isRaise

/-- Whether a callback with the first token **takes out** the second one, before it raises if it
does. -/
def cancels (s : Script) (own token : Nat) : Bool :=
  (s.actions.takeWhile (!·.isRaise)).any (Action.cancels own token)

end Script

/-- Actions take a token out just if one of them does that comes before the first raise. -/
theorem Action.any_cancels_events (own token next : Nat) (actions : List Action) :
    (events own next actions).any (TableEvent.cancels token) =
      (actions.takeWhile (!·.isRaise)).any (Action.cancels own token) := by
  induction actions generalizing next with
  | nil => rfl
  | cons action rest ih =>
    cases action with
    | raise => rfl
    | _ => simp [events, TableEvent.cancels, Action.cancels, isRaise, ih]

/-- The tokens that a callback hands out are the next ones, in counting order. -/
theorem Action.registrations_events (own next : Nat) (actions : List Action) :
    (TableEvent.registrations (events own next actions)).map (·.1) =
      List.range' next (TableEvent.registrations (events own next actions)).length := by
  induction actions generalizing next with
  | nil => rfl
  | cons action rest ih =>
    cases action with
    | register name actions =>
      have hrest := ih (next + 1)
      simp only [TableEvent.registrations] at hrest ⊢
      simp [events, TableEvent.registration?, hrest, List.range'_succ]
    | raise => rfl
    | _ => exact ih next

namespace Rehearsal

open TableEvent

variable {r : Rehearsal} {ran entries : List (Nat × Script)} {e : Nat × Script}

/-! ### Running a callback -/

/-- The outcome of a callback that leaves the given rehearsal. -/
def verdict (name : String) (raises : Bool) (r : Rehearsal) : EStateM.Result Fault Rehearsal Unit :=
  if raises then .error (.broken ("callback " ++ name)) r else .ok () r

/-- What a callback does to its table is **what its script says**. -/
theorem actAll_eq (own : Nat) (name : String) (actions : List Action) (r : Rehearsal) :
    actAll own name actions r = verdict name (actions.any Action.isRaise)
      { r with table := r.table.endure (Action.events own r.table.nextToken actions) } := by
  induction actions generalizing r with
  | nil =>
    rw [Action.events, FrameTable.endure_nil]
    rfl
  | cons action rest ih =>
    cases action with
    | cancel token =>
      have hstep : actAll own name (.cancel token :: rest) r =
          actAll own name rest (r.cancel token) := rfl
      rw [hstep, ih, Action.events, FrameTable.endure_cancelled]
      rfl
    | cancelSelf =>
      have hstep : actAll own name (.cancelSelf :: rest) r =
          actAll own name rest (r.cancel own) := rfl
      rw [hstep, ih, Action.events, FrameTable.endure_cancelled]
      rfl
    | register newName actions =>
      have hstep : actAll own name (.register newName actions :: rest) r =
          actAll own name rest { r with table := (r.table.register ⟨newName, actions⟩).2 } := rfl
      rw [hstep, ih, Action.events, FrameTable.endure_registered]
      rfl
    | raise =>
      rw [Action.events, FrameTable.endure_nil]
      rfl

/-- The events of callbacks **one after another**, when the given token is the next one. -/
def eventsOf : Nat → List (Nat × Script) → List TableEvent
  | _, [] => []
  | next, e :: rest =>
    let events := Action.events e.1 next e.2.actions
    events ++ eventsOf (next + (registrations events).length) rest

/-- A rehearsal **after** the given callbacks have run. -/
def after (r : Rehearsal) (ran : List (Nat × Script)) : Rehearsal where
  table := r.table.endure (eventsOf r.table.nextToken ran)
  ran := r.ran ++ ran.map (·.2.name)

/-- The callbacks that run later put theirs in under the tokens that the earlier ones left. -/
theorem eventsOf_append (next : Nat) (first second : List (Nat × Script)) :
    eventsOf next (first ++ second) = eventsOf next first ++
      eventsOf (next + (registrations (eventsOf next first)).length) second := by
  induction first generalizing next with
  | nil => rfl
  | cons e first ih =>
    have hcount : ∀ events later : List TableEvent, (registrations (events ++ later)).length =
        (registrations events).length + (registrations later).length := by
      intro events later
      rw [registrations, List.filterMap_append, List.length_append]
      rfl
    rw [List.cons_append, eventsOf, eventsOf, ih, hcount, List.append_assoc, Nat.add_assoc]

/-- Running one more callback. -/
theorem run_after (r : Rehearsal) (ran : List (Nat × Script)) (e : Nat × Script) :
    run e.1 e.2 (r.after ran) = verdict e.2.name e.2.raises (r.after (ran ++ [e])) := by
  have hstart : run e.1 e.2 (r.after ran) = actAll e.1 e.2.name e.2.actions
      { r.after ran with ran := (r.after ran).ran ++ [e.2.name] } := rfl
  have hnext : (r.after ran).table.nextToken =
      r.table.nextToken + (registrations (eventsOf r.table.nextToken ran)).length := rfl
  rw [hstart, actAll_eq, hnext, after, after, eventsOf_append, FrameTable.endure_append, eventsOf,
    eventsOf, List.append_nil, List.map_append, List.append_assoc]
  rfl

/-- A token is taken out just if one of the callbacks that ran takes it out. -/
theorem any_cancels_eventsOf (token next : Nat) :
    (eventsOf next ran).any (TableEvent.cancels token) =
      ran.any fun e => e.2.cancels e.1 token := by
  induction ran generalizing next with
  | nil => rfl
  | cons e ran ih =>
    rw [eventsOf, List.any_append, Action.any_cancels_events, ih, List.any_cons, Script.cancels]

/-- The tokens that are handed out are the next ones, in counting order. -/
theorem registrations_eventsOf (next : Nat) (ran : List (Nat × Script)) :
    (registrations (eventsOf next ran)).map (·.1) =
      List.range' next (registrations (eventsOf next ran)).length := by
  induction ran generalizing next with
  | nil => rfl
  | cons e ran ih =>
    have htokens := Action.registrations_events e.1 next e.2.actions
    simp only [eventsOf, registrations, List.filterMap_append, List.map_append,
      List.length_append] at htokens ih ⊢
    rw [htokens, ih, List.range'_append_1]

/-! ### Turns -/

/-- Whether a callback **has lost its turn** to those that ran before it: one of them raised or took
it out. -/
def isBarred (ran : List (Nat × Script)) (e : Nat × Script) : Bool :=
  ran.any fun e' => e'.2.raises || e'.2.cancels e'.1 e.1

/-- The callbacks of a list that **have their turn** after others have run. -/
def turnsAfter (ran : List (Nat × Script)) : List (Nat × Script) → List (Nat × Script)
  | [] => []
  | e :: rest =>
    if isBarred ran e then turnsAfter ran rest else e :: turnsAfter (ran ++ [e]) rest

/-- The callbacks that **have their turn** in a refresh of the given entries. -/
def turns (entries : List (Nat × Script)) : List (Nat × Script) := turnsAfter [] entries

/-- Those that have their turn are some of the list, in its order. -/
theorem turnsAfter_sublist : (turnsAfter ran entries).Sublist entries := by
  induction entries generalizing ran with
  | nil => exact List.Sublist.refl _
  | cons e entries ih =>
    rw [turnsAfter]
    split
    · exact ih.cons _
    · exact ih.cons_cons _

/-- The callbacks later in a list have their turn after those of the earlier ones that had
theirs. -/
theorem turnsAfter_append (first second : List (Nat × Script)) :
    turnsAfter ran (first ++ second) =
      turnsAfter ran first ++ turnsAfter (ran ++ turnsAfter ran first) second := by
  induction first generalizing ran with
  | nil => rw [List.nil_append, turnsAfter, List.append_nil, List.nil_append]
  | cons e first ih =>
    rw [List.cons_append, turnsAfter, turnsAfter]
    split
    · exact ih
    · rw [ih, List.cons_append, List.append_assoc, List.singleton_append]

/-- After a callback that raised nobody has a turn. -/
theorem turnsAfter_eq_nil (h : ran.any (·.2.raises) = true) : turnsAfter ran entries = [] := by
  induction entries with
  | nil => rfl
  | cons e entries ih =>
    obtain ⟨e', he', hraises⟩ := List.any_eq_true.mp h
    have hbarred : isBarred ran e = true :=
      List.any_eq_true.mpr ⟨e', he', by rw [hraises, Bool.true_or]⟩
    rw [turnsAfter, if_pos hbarred]
    exact ih

/-- A callback has its turn exactly when none of those before it that had theirs raised or took it
out. -/
theorem mem_turns_iff {before later : List (Nat × Script)}
    (h : (before ++ e :: later).Nodup) :
    e ∈ turns (before ++ e :: later) ↔ ∀ e' ∈ before, e' ∈ turns (before ++ e :: later) →
      e'.2.raises = false ∧ e'.2.cancels e'.1 e.1 = false := by
  obtain ⟨-, hrest, hapart⟩ := List.nodup_append.mp h
  have hbefore : ∀ e' ∈ before, e' ∈ turns (before ++ e :: later) ↔ e' ∈ turns before := by
    intro e' he'
    rw [turns, turnsAfter_append, List.mem_append, or_iff_left]
    · rfl
    · exact fun hmem => hapart e' he' e' (turnsAfter_sublist.subset hmem) rfl
  have hturn : e ∈ turns (before ++ e :: later) ↔ isBarred (turns before) e = false := by
    rw [turns, turnsAfter_append, List.mem_append, List.nil_append, turnsAfter]
    have hnot : e ∉ turnsAfter [] before := fun hmem =>
      hapart e (turnsAfter_sublist.subset hmem) e List.mem_cons_self rfl
    have hlater : e ∉ later := (List.nodup_cons.mp hrest).1
    cases hbarred : isBarred (turns before) e with
    | true =>
      have hbarred : isBarred (turnsAfter [] before) e = true := hbarred
      rw [if_pos hbarred]
      exact iff_of_false (not_or_intro hnot fun hmem => hlater (turnsAfter_sublist.subset hmem))
        nofun
    | false =>
      have hbarred : isBarred (turnsAfter [] before) e = false := hbarred
      rw [hbarred]
      exact iff_of_true (.inr List.mem_cons_self) rfl
  rw [hturn, isBarred, List.any_eq_false]
  constructor
  · intro hnone e' he' hmem
    have h := hnone e' ((hbefore e' he').mp hmem)
    rwa [Bool.not_eq_true, Bool.or_eq_false_iff] at h
  · intro hnone e' hmem
    have he' : e' ∈ before := turnsAfter_sublist.subset hmem
    rw [Bool.not_eq_true, Bool.or_eq_false_iff]
    exact hnone e' he' ((hbefore e' he').mpr hmem)

/-! ### A refresh -/

/-- A table whose entries have **different tokens**, all of which have been handed out. -/
structure Numbered (t : FrameTable Script) : Prop where
  nodup : (t.entries.map (·.1)).Nodup
  lt_next : ∀ e ∈ t.entries, e.1 < t.nextToken

/-- An old entry is still there unless one of those that ran took it out. -/
theorem contains_after (h : Numbered r.table) (he : e ∈ r.table.entries) :
    (r.after ran).table.contains e.1 = !ran.any fun e' => e'.2.cancels e'.1 e.1 := by
  rw [← any_cancels_eventsOf e.1 r.table.nextToken, FrameTable.contains, after, FrameTable.endure,
    List.any_append]
  have hnew : (newcomers (eventsOf r.table.nextToken ran)).any (fun e' => e'.1 == e.1) = false := by
    rw [List.any_eq_false]
    intro e' he' heq
    have hmem := List.mem_map_of_mem (f := (·.1)) (newcomers_sublist.subset he')
    rw [registrations_eventsOf, List.mem_range'_1, beq_iff_eq.mp heq] at hmem
    have hlt := h.lt_next e he
    omega
  rw [hnew, Bool.or_false, Bool.eq_iff_iff, List.any_eq_true]
  constructor
  · rintro ⟨e', he', heq⟩
    obtain ⟨-, hkept⟩ := List.mem_filter.mp he'
    rwa [beq_iff_eq.mp heq] at hkept
  · exact fun hkept => ⟨e, List.mem_filter.mpr ⟨he, hkept⟩, beq_self_eq_true _⟩

/-- The **outcome of a refresh** in which the given callbacks run: their number, or the fault of the
one that raised. -/
def outcome (r : Rehearsal) (ran new : List (Nat × Script)) :
    EStateM.Result Fault Rehearsal Nat :=
  match new.find? (·.2.raises) with
  | some e => .error (.broken ("callback " ++ e.2.name)) (r.after (ran ++ new))
  | none => .ok new.length (r.after (ran ++ new))

/-- Running the entries that are left goes on as foretold, as long as nobody has raised. -/
theorem runEach_after (h : Numbered r.table) (hraises : ran.any (·.2.raises) = false)
    (hentries : entries ⊆ r.table.entries) :
    FrameTable.runEach (do return (← get).table) run entries (r.after ran) =
      outcome r ran (turnsAfter ran entries) := by
  induction entries generalizing ran with
  | nil =>
    rw [turnsAfter, outcome, List.find?_nil, List.append_nil]
    rfl
  | cons e rest ih =>
    obtain ⟨he, hrest⟩ := List.cons_subset.mp hentries
    have hstep : FrameTable.runEach (do return (← get).table) run (e :: rest) (r.after ran) =
        (if (r.after ran).table.contains e.1 then do
          run e.1 e.2
          let count ← FrameTable.runEach (do return (← get).table) run rest
          return count + 1
        else FrameTable.runEach (do return (← get).table) run rest :
          EStateM Fault Rehearsal Nat) (r.after ran) := rfl
    have hbarred : isBarred ran e = ran.any fun e' => e'.2.cancels e'.1 e.1 := by
      rw [isBarred, Bool.eq_iff_iff, List.any_eq_true, List.any_eq_true]
      refine exists_congr fun e' => and_congr_right fun he' => ?_
      have hquiet := List.any_eq_false.mp hraises e' he'
      rw [Bool.not_eq_true] at hquiet
      rw [hquiet, Bool.false_or]
    rw [hstep, contains_after h he, ← hbarred, turnsAfter]
    cases hturn : isBarred ran e with
    | true => exact ih hraises hrest
    | false =>
      have hrun := run_after r ran e
      cases hown : e.2.raises with
      | true =>
        have hnobody : turnsAfter (ran ++ [e]) rest = [] :=
          turnsAfter_eq_nil (by rw [List.any_append, List.any_cons, hown, Bool.true_or,
            Bool.or_true])
        rw [hown] at hrun
        simp only [Bool.not_false, if_true, Bool.false_eq_true, if_false, bind, EStateM.bind, hrun,
          hnobody, verdict, outcome, List.find?_cons, hown]
      | false =>
        have hquiet : (ran ++ [e]).any (·.2.raises) = false := by
          rw [List.any_append, hraises, List.any_cons, hown]
          rfl
        have hgoes := ih hquiet hrest
        rw [hown] at hrun
        simp only [bind] at hgoes
        simp only [Bool.not_false, if_true, Bool.false_eq_true, if_false, bind, EStateM.bind, hrun,
          verdict, hgoes, outcome, List.find?_cons, hown, List.append_assoc, List.singleton_append]
        cases (turnsAfter (ran ++ [e]) rest).find? (·.2.raises) <;> rfl

/-- A refresh of a numbered table goes as foretold. -/
theorem dispatch_eq (h : Numbered r.table) : dispatch r = outcome r [] (turns r.table.entries) := by
  have hstart : r.after [] = r := by
    rw [after, eventsOf, FrameTable.endure_nil, List.map_nil, List.append_nil]
  have hstep : dispatch r =
      FrameTable.runEach (do return (← get).table) run r.table.entries r := rfl
  have hrun : FrameTable.runEach (do return (← get).table) run r.table.entries (r.after []) =
      outcome r [] (turnsAfter [] r.table.entries) := runEach_after h rfl (List.Subset.refl _)
  rw [hstart] at hrun
  rw [hstep, hrun, turns]

/-- The callback that raises is the last one that runs. -/
theorem turnsAfter_of_raises (he : e ∈ turnsAfter ran entries) (hraises : e.2.raises = true) :
    ∃ before, turnsAfter ran entries = before ++ [e] ∧ ∀ e' ∈ before, e'.2.raises = false := by
  induction entries generalizing ran with
  | nil => exact absurd he List.not_mem_nil
  | cons first rest ih =>
    rw [turnsAfter] at he ⊢
    split at he
    case isTrue hbarred =>
      rw [if_pos hbarred]
      exact ih he
    case isFalse hturn =>
      rw [if_neg hturn]
      cases hfirst : first.2.raises with
      | true =>
        have hnobody : turnsAfter (ran ++ [first]) rest = [] :=
          turnsAfter_eq_nil (by rw [List.any_append, List.any_cons, hfirst, Bool.true_or,
            Bool.or_true])
        rw [hnobody] at he ⊢
        exact ⟨[], by rw [List.mem_singleton.mp he, List.nil_append], nofun⟩
      | false =>
        obtain rfl | he := List.mem_cons.mp he
        · exact absurd (hraises.symm.trans hfirst) nofun
        · obtain ⟨before, hlast, hquiet⟩ := ih he
          exact ⟨first :: before, by rw [hlast, List.cons_append],
            List.forall_mem_cons.mpr ⟨hfirst, hquiet⟩⟩

/-- A refresh in which nobody raises gives the number of those that ran. -/
theorem outcome_of_quiet (hquiet : ∀ e ∈ ran, e.2.raises = false) :
    outcome r [] ran = .ok ran.length (r.after ran) := by
  have hnone : ran.find? (·.2.raises) = none :=
    List.find?_eq_none.mpr fun e he => by rw [hquiet e he]; nofun
  rw [outcome, hnone, List.nil_append]

/-- A refresh in which somebody raises fails with the fault of that callback. -/
theorem outcome_of_raises (he : e ∈ turns entries) (hraises : e.2.raises = true) :
    outcome r [] (turns entries) =
      .error (.broken ("callback " ++ e.2.name)) (r.after (turns entries)) := by
  obtain ⟨before, hlast, hquiet⟩ := turnsAfter_of_raises he hraises
  have hnone : before.find? (·.2.raises) = none :=
    List.find?_eq_none.mpr fun e he => by rw [hquiet e he]; nofun
  have hlast : turns entries = before ++ [e] := hlast
  rw [outcome, hlast, List.find?_append, hnone, List.find?_singleton, if_pos hraises,
    List.nil_append]
  rfl

/-! ### Runs -/

/-- What is **done to a rehearsal** from outside. -/
inductive Step where
  | register (script : Script)
  | cancel (token : Nat)
  | dispatch

/-- The rehearsal after a step, whether or not the refresh fails. -/
def Step.perform (r : Rehearsal) : Step → Rehearsal
  | .register script => (r.register script).2
  | .cancel token => r.cancel token
  | .dispatch =>
    match Rehearsal.dispatch r with
    | .ok _ r' => r'
    | .error _ r' => r'

/-- The tokens that a step **hands out**, each with the callback it is for. -/
def Step.handsOut (r : Rehearsal) : Step → List (Nat × Script)
  | .register script => [((r.register script).1, script)]
  | .cancel _ => []
  | .dispatch => registrations (eventsOf r.table.nextToken (turns r.table.entries))

/-- The rehearsal after steps one after another. -/
def performAll (r : Rehearsal) (steps : List Step) : Rehearsal := steps.foldl Step.perform r

/-- The tokens that are **handed out over steps**, in order. -/
def handedOut (r : Rehearsal) : List Step → List (Nat × Script)
  | [] => []
  | step :: rest => step.handsOut r ++ handedOut (step.perform r) rest

/-- A rehearsal in which the given tokens **have been handed out**: they are the numbers from one
on, and what is in the table is some of it. -/
structure Accounted (handed : List (Nat × Script)) (r : Rehearsal) : Prop where
  tokens : handed.map (·.1) = List.range' 1 handed.length
  next : r.table.nextToken = 1 + handed.length
  entries : r.table.entries.Sublist handed

variable {handed : List (Nat × Script)}

/-- No token is handed out twice. -/
theorem Accounted.nodup (h : Accounted handed r) : (handed.map (·.1)).Nodup := by
  rw [h.tokens]
  exact List.nodup_range'

/-- The tokens in the table are different, and below the next one. -/
theorem Accounted.numbered (h : Accounted handed r) : Numbered r.table where
  nodup := h.nodup.sublist (h.entries.map _)
  lt_next := by
    intro e he
    have hmem := List.mem_map_of_mem (f := (·.1)) (h.entries.subset he)
    rw [h.tokens, List.mem_range'_1] at hmem
    rw [h.next]
    exact hmem.2

/-- A refresh of a numbered table leaves what its events leave. -/
theorem perform_dispatch (h : Numbered r.table) :
    Step.dispatch.perform r = r.after (turns r.table.entries) := by
  rw [Step.perform, dispatch_eq h, outcome]
  cases (turns r.table.entries).find? (·.2.raises) <;> rfl

/-- Every step hands out the next tokens. -/
theorem Accounted.perform (h : Accounted handed r) (step : Step) :
    Accounted (handed ++ step.handsOut r) (step.perform r) := by
  cases step with
  | register script =>
    have hout : Step.handsOut r (.register script) = [(r.table.nextToken, script)] := rfl
    rw [hout]
    refine ⟨?_, ?_, h.entries.append_right _⟩
    · rw [List.map_append, h.tokens, List.length_append, ← List.range'_append_1, h.next]
      rfl
    · rw [List.length_append, ← Nat.add_assoc, ← h.next]
      rfl
  | cancel token =>
    rw [Step.handsOut, List.append_nil]
    exact ⟨h.tokens, h.next, List.filter_sublist.trans h.entries⟩
  | dispatch =>
    rw [perform_dispatch h.numbered, Step.handsOut]
    refine ⟨?_, ?_, (List.filter_sublist.trans h.entries).append newcomers_sublist⟩
    · rw [List.map_append, h.tokens, List.length_append, ← List.range'_append_1,
        registrations_eventsOf, h.next]
    · rw [List.length_append, ← Nat.add_assoc, ← h.next]
      rfl

/-- Every run hands out the next tokens. -/
theorem Accounted.performAll (h : Accounted handed r) (steps : List Step) :
    Accounted (handed ++ r.handedOut steps) (r.performAll steps) := by
  induction steps generalizing handed r with
  | nil =>
    rw [handedOut, List.append_nil]
    exact h
  | cons step rest ih =>
    rw [handedOut, ← List.append_assoc]
    exact ih (h.perform step)

/-- At first nothing has been handed out. -/
theorem accounted_empty : Accounted [] {} := ⟨rfl, rfl, List.Sublist.refl _⟩

/-- **A refresh goes as foretold**, after any run of registrations, cancellations and refreshes. The
callbacks that run are those of the table, in its order and each once, that have not lost their turn
to one that ran before them by its raising or by its taking them out. The refresh gives their number
if none of them raises, and fails with the fault of the last one otherwise. Either way it leaves the
old entries that none of them took out, followed by those that were put in and not taken out
afterwards. All tokens of the run are different, they are as many as the table has counted, and the
table holds its callbacks in the order of their tokens, so a token takes out the callback that it
was handed out for and no other. -/
theorem dispatch_foretold (steps : List Step) :
    let r := performAll {} steps
    let ran := turns r.table.entries
    (ran.Sublist r.table.entries ∧
      ∀ before e later, r.table.entries = before ++ e :: later →
        (e ∈ ran ↔ ∀ e' ∈ before, e' ∈ ran →
          e'.2.raises = false ∧ e'.2.cancels e'.1 e.1 = false)) ∧
    ((∀ e ∈ ran, e.2.raises = false) → dispatch r = .ok ran.length (r.after ran)) ∧
    (∀ e ∈ ran, e.2.raises = true →
      dispatch r = .error (.broken ("callback " ++ e.2.name)) (r.after ran)) ∧
    (r.after ran).ran = r.ran ++ ran.map (·.2.name) ∧
    (r.after ran).table.entries =
      r.table.entries.filter (fun e => !ran.any fun e' => e'.2.cancels e'.1 e.1) ++
        newcomers (eventsOf r.table.nextToken ran) ∧
    ((handedOut {} steps).map (·.1)).Nodup ∧
    r.table.nextToken = 1 + (handedOut {} steps).length ∧
    r.table.entries.Sublist (handedOut {} steps) ∧
    ∀ e ∈ handedOut {} steps, ∀ e' ∈ r.table.entries,
      e' ∉ (r.cancel e.1).table.entries ↔ e' = e := by
  intro r ran
  have h : Accounted (handedOut {} steps) r := accounted_empty.performAll steps
  have hnodup : r.table.entries.Nodup := List.Nodup.of_map _ h.numbered.nodup
  refine ⟨⟨turnsAfter_sublist, ?turn⟩, ?quiet, ?raises, rfl, ?table, h.nodup, h.next, h.entries,
    ?cancel⟩
  case turn =>
    intro before e later hcut
    have hiff := mem_turns_iff (hcut ▸ hnodup)
    rwa [← hcut] at hiff
  case quiet =>
    intro hquiet
    rw [dispatch_eq h.numbered]
    exact outcome_of_quiet hquiet
  case raises =>
    intro e he hraises
    rw [dispatch_eq h.numbered]
    exact outcome_of_raises he hraises
  case table =>
    simp only [after, FrameTable.endure, any_cancels_eventsOf]
  case cancel =>
    intro e he e' he'
    have hgone : e' ∉ (r.cancel e.1).table.entries ↔ e'.1 = e.1 := by
      rw [cancel, FrameTable.entries_cancel, List.mem_filter, not_and, bne_iff_ne, not_not]
      exact ⟨fun h => h he', fun h _ => h⟩
    rw [hgone]
    exact ⟨List.inj_on_of_nodup_map h.nodup (h.entries.subset he') he, congrArg _⟩

/-- Of four callbacks the first takes out the second, and the third takes itself out, puts one in
and raises; so the second and the fourth have no turn. -/
theorem dispatch_foretold_mixed :
    let steps := [.register ⟨"a", [.cancel 2]⟩, .register ⟨"b", []⟩,
      .register ⟨"c", [.cancelSelf, .register "d" [], .raise]⟩, .register ⟨"e", []⟩]
    let r := performAll {} steps
    ∃ r', dispatch r = .error (.broken "callback c") r' ∧ r'.ran = ["a", "c"] ∧
      r'.table.entries.map (·.2.name) = ["a", "e", "d"] := by
  intro steps r
  obtain ⟨-, -, hraises, hran, htable, -⟩ := dispatch_foretold steps
  refine ⟨r.after (turns r.table.entries), ?_, ?_, ?_⟩
  · exact hraises (3, ⟨"c", [.cancelSelf, .register "d" [], .raise]⟩) (.tail _ (.head _)) rfl
  · exact hran
  · rw [htable]
    rfl

end Rehearsal

end ShaderPreview
