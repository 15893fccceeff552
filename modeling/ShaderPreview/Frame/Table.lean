/-!
# Frame Tables

The display calls back once per refresh everything that asked for it. A **frame table** holds these
callbacks under tokens that are never used twice. A refresh runs the callbacks that were in the
table when it began, in the order of their registration; a callback that an earlier one has
cancelled in the meantime is passed over, and one that was registered in the meantime waits for the
next refresh.

## Main definitions

* `FrameTable`: the callbacks, each under its token.
* `FrameTable.register`, `FrameTable.cancel`: what can be done to the table.
* `FrameTable.dispatch`: one refresh.

## Main results

* `FrameTable.entries_register`, `FrameTable.entries_cancel`: what they do to the entries.
-/

namespace ShaderPreview

/-- The **callbacks of a display**, in the order of registration. The entries are of any kind; what
running one means is up to whoever runs it. -/
structure FrameTable (κ : Type) where
  entries : List (Nat × κ) := []
  nextToken : Nat := 1
  deriving DecidableEq, Repr

namespace FrameTable

variable {κ : Type}

/-- Puts a callback into the table and gives its token. -/
def register (t : FrameTable κ) (callback : κ) : Nat × FrameTable κ :=
  (t.nextToken, { entries := t.entries ++ [(t.nextToken, callback)], nextToken := t.nextToken + 1 })

/-- Takes the callback with a token out of the table, if it is there. -/
def cancel (t : FrameTable κ) (token : Nat) : FrameTable κ :=
  { t with entries := t.entries.filter fun e => e.1 != token }

/-- Whether a token is in the table. -/
def contains (t : FrameTable κ) (token : Nat) : Bool := t.entries.any fun e => e.1 == token

/-- The number of callbacks. -/
def size (t : FrameTable κ) : Nat := t.entries.length

/-- Runs those of the given entries that are still in the table when their turn comes, and counts
them. -/
def runEach {m : Type → Type} [Monad m] (table : m (FrameTable κ)) (run : Nat → κ → m Unit) :
    List (Nat × κ) → m Nat
  | [] => pure 0
  | (token, callback) :: rest => do
    let current ← table
    if current.contains token then
      run token callback
      let count ← runEach table run rest
      return count + 1
    else runEach table run rest

/-- **One refresh**: runs each callback of the table once and gives their number. -/
def dispatch {m : Type → Type} [Monad m] (table : m (FrameTable κ)) (run : Nat → κ → m Unit) :
    m Nat := do
  let start ← table
  runEach table run start.entries

/-- A registration appends one entry. -/
@[simp] theorem entries_register (t : FrameTable κ) (callback : κ) :
    (t.register callback).2.entries = t.entries ++ [(t.nextToken, callback)] := rfl

/-- A cancellation takes out the entries with the token. -/
@[simp] theorem entries_cancel (t : FrameTable κ) (token : Nat) :
    (t.cancel token).entries = t.entries.filter fun e => e.1 != token := rfl

end FrameTable

end ShaderPreview
