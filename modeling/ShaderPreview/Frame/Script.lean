import ShaderPreview.Fault
import ShaderPreview.Frame.Table

/-!
# Scripted Callbacks

A callback whose whole conduct is written down: a name and a list of actions on the frame table that
it belongs to. A **rehearsal** is a frame table of such callbacks together with the names of those
that have run.

## Main definitions

* `Script`, `Action`: a callback's conduct.
* `Rehearsal`: the table and the names.
* `Rehearsal.dispatch`: one refresh.
-/

namespace ShaderPreview

/-- What a scripted callback **does** to its table. -/
inductive Action where
  | cancel (token : Nat)
  | cancelSelf
  | register (name : String) (actions : List Action)
  | raise
  deriving Repr

/-- A **scripted callback**. -/
structure Script where
  name : String
  actions : List Action
  deriving Repr

/-- A frame table of scripted callbacks, and the **names of those that have run**, in order. -/
structure Rehearsal where
  table : FrameTable Script := {}
  ran : List String := []
  deriving Repr

namespace Rehearsal

/-- Puts a script into the table. -/
def register (r : Rehearsal) (script : Script) : Nat × Rehearsal :=
  let (token, table) := r.table.register script
  (token, { r with table })

/-- Takes a token out of the table. -/
def cancel (r : Rehearsal) (token : Nat) : Rehearsal := { r with table := r.table.cancel token }

/-- One action of the callback with the given token and name. -/
def act (token : Nat) (name : String) : Action → EStateM Fault Rehearsal Unit
  | .cancel other => modify (·.cancel other)
  | .cancelSelf => modify (·.cancel token)
  | .register newName actions => modify fun r => (r.register ⟨newName, actions⟩).2
  | .raise => throw (.broken ("callback " ++ name))

/-- The actions of a callback, one after another. -/
def actAll (token : Nat) (name : String) : List Action → EStateM Fault Rehearsal Unit
  | [] => pure ()
  | action :: rest => do
    act token name action
    actAll token name rest

/-- **Runs** a callback: its name is noted, then it acts. -/
def run (token : Nat) (script : Script) : EStateM Fault Rehearsal Unit := do
  modify fun r => { r with ran := r.ran ++ [script.name] }
  actAll token script.name script.actions

/-- **One refresh** of the table. -/
def dispatch : EStateM Fault Rehearsal Nat :=
  FrameTable.dispatch (do return (← get).table) run

end Rehearsal

end ShaderPreview
