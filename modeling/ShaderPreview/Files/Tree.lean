import ShaderPreview.Fault
import ShaderPreview.Files.Path

/-!
# File Trees

The files below a working directory, each with its content. A directory is there when a file is
below it. Of what lies above the working directory only the way up is known.

## Main definitions

* `FileTree`: the files.
* `FileTree.read`: the content of the file that a path leads to, or why there is none.
-/

namespace ShaderPreview

/-- The **files below a working directory**, each under the names that lead to it. -/
structure FileTree where
  files : List (List String × List UInt8) := []
  deriving DecidableEq, Repr

namespace FileTree

/-- Puts a file into the tree, in the place of what was there. -/
def put (t : FileTree) (names : List String) (content : List UInt8) : FileTree :=
  ⟨(names, content) :: t.files.filter fun f => f.1 != names⟩

/-- Takes a file out of the tree. -/
def remove (t : FileTree) (names : List String) : FileTree :=
  ⟨t.files.filter fun f => f.1 != names⟩

/-- Whether some file is below a directory. -/
def isDirectory (t : FileTree) (names : List String) : Bool :=
  t.files.any fun f => names.isPrefixOf f.1

/-- A **directory** on the way: one below the working directory or one above it. -/
inductive Place where
  | inside (names : List String)
  | above
  deriving DecidableEq, Repr

/-- The directory above. -/
def Place.parent : Place → Place
  | .inside [] => .above
  | .inside (name :: names) => .inside (name :: names).dropLast
  | .above => .above

/-- The longest name, in bytes. -/
def maxNameSize : Nat := 255

/-- The longest path, in bytes. -/
def maxPathSize : Nat := 4095

/-- Follows the remaining names of a path from a directory on; `shown` is the whole path. -/
def walk (t : FileTree) (shown : String) : Place → List String → Except FileFault (List UInt8)
  | _, [] => .error (.isADirectory shown)
  | place, name :: rest =>
    if maxNameSize < name.utf8ByteSize then .error (.nameTooLong shown)
    else if name = ".." then walk t shown place.parent rest
    else
      match place with
      | .above => .error (.notFound shown)
      | .inside names =>
        match t.files.lookup (names ++ [name]) with
        | some content => if rest.isEmpty then .ok content else .error (.notADirectory shown)
        | none =>
          if t.isDirectory (names ++ [name]) then walk t shown (.inside (names ++ [name])) rest
          else .error (.notFound shown)

/-- The **content of the file** that a path leads to. -/
def read (t : FileTree) (path : Path) : Except Fault (List UInt8) :=
  let shown := path.toString
  if shown.toList.contains '\x00' then .error .impossiblePath
  else if maxPathSize < shown.utf8ByteSize then .error (.file (.nameTooLong shown))
  else
    let start := if path.root = "" then Place.inside [] else Place.above
    (t.walk shown start path.parts).mapError .file

end FileTree

end ShaderPreview
