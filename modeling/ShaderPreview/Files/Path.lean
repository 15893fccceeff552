/-!
# Paths

A **path** names a file by the names on the way to it. It starts at the working directory or at the
root. Single dots and repeated slashes mean nothing and are left out; double dots mean the directory
above and stay, because what is above depends on the files. Two slashes in front are a root of their
own kind; three or more are one.

## Main definitions

* `Path.ofString`, `Path.toString`: reading and writing.

## Main results

* `Path.mem_parts_ofString`: no name in a path that was read is empty or a single dot.
-/

namespace ShaderPreview

/-- A **path**: its root, which is empty for the working directory, and the names after it. -/
structure Path where
  root : String := ""
  parts : List String := []
  deriving DecidableEq, Repr

namespace Path

/-- The pieces of a text between slashes. -/
def pieces : List Char → List (List Char)
  | [] => [[]]
  | c :: rest =>
    if c = '/' then [] :: pieces rest
    else
      match pieces rest with
      | [] => [[c]]
      | piece :: more => (c :: piece) :: more

/-- Whether a piece between slashes is a name. -/
def isName (piece : List Char) : Bool := piece != [] && piece != ['.']

/-- The **path that a text stands for**. -/
def ofString (s : String) : Path :=
  let text := s.toList
  let slashes := (text.takeWhile (· == '/')).length
  { root := if slashes = 0 then "" else if slashes = 2 then "//" else "/"
    parts := ((pieces text).filter isName).map String.ofList }

/-- The **text of a path**; the working directory itself is a single dot. -/
protected def toString (p : Path) : String :=
  if p.root = "" && p.parts.isEmpty then "." else p.root ++ "/".intercalate p.parts

/-- Every name in a path that was read is a proper name. -/
theorem mem_parts_ofString {s name : String} (h : name ∈ (ofString s).parts) :
    name ≠ "" ∧ name ≠ "." := by
  simp only [ofString, List.mem_map, List.mem_filter] at h
  obtain ⟨piece, ⟨-, hp⟩, rfl⟩ := h
  simp only [isName, bne_iff_ne, ne_eq, Bool.and_eq_true] at hp
  refine ⟨fun h => hp.1 ?_, fun h => hp.2 ?_⟩
  · simpa using congrArg String.toList h
  · simpa using congrArg String.toList h

end Path

end ShaderPreview
