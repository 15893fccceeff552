/-!
# Registries

A **registry** keeps things under whole numbers, in the order in which the numbers were first
entered. A number that is entered again keeps its place.

## Main definitions

* `Registry`: the type, with `Registry.find?`, `Registry.put` and `Registry.erase`.

## Main results

* `Registry.find?_put`, `Registry.find?_erase`: what is found after a change.
-/

namespace ShaderPreview

/-- Things **kept under numbers**, in the order of their first entry. -/
structure Registry (α : Type) where
  entries : List (Int × α) := []
  deriving DecidableEq, Repr

namespace Registry

variable {α : Type}

/-- What is kept under a number. -/
def find? (r : Registry α) (key : Int) : Option α := r.entries.lookup key

/-- The numbers in use. -/
def keys (r : Registry α) : List Int := r.entries.map (·.1)

/-- Keeps a thing under a number in a list of entries. -/
def putIn (key : Int) (a : α) : List (Int × α) → List (Int × α)
  | [] => [(key, a)]
  | e :: rest => if e.1 = key then (key, a) :: rest else e :: putIn key a rest

/-- **Keeps** a thing under a number, in the place of what was there. -/
def put (r : Registry α) (key : Int) (a : α) : Registry α := ⟨putIn key a r.entries⟩

/-- **Forgets** what is kept under a number. -/
def erase (r : Registry α) (key : Int) : Registry α := ⟨r.entries.filter fun e => e.1 != key⟩

/-- What is found in a list after an entry. -/
theorem lookup_putIn (key other : Int) (a : α) (es : List (Int × α)) :
    (putIn key a es).lookup other = if other = key then some a else es.lookup other := by
  induction es with
  | nil => grind [putIn]
  | cons e rest ih =>
    obtain ⟨k, b⟩ := e
    grind [putIn]

/-- What is **found after an entry**: the new thing under its number, the old ones elsewhere. -/
@[simp] theorem find?_put (r : Registry α) (key other : Int) (a : α) :
    (r.put key a).find? other = if other = key then some a else r.find? other :=
  lookup_putIn key other a r.entries

/-- What is **found after forgetting** a number: nothing there, the old things elsewhere. -/
@[simp] theorem find?_erase (r : Registry α) (key other : Int) :
    (r.erase key).find? other = if other = key then none else r.find? other := by
  obtain ⟨es⟩ := r
  simp only [find?, erase]
  induction es with
  | nil => simp
  | cons e rest ih =>
    obtain ⟨k, b⟩ := e
    grind

end Registry

end ShaderPreview
