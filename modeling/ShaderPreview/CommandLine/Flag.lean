import ShaderPreview.Notice
import ShaderPreview.Settings

/-!
# Flags

The flags of the command line with their spellings, and the texts that explain them.

## Main definitions

* `Flag`: the flags.
* `Flag.table`: every spelling with its flag.
* `CommandLine.usage`, `CommandLine.help`: the explanations.
-/

namespace ShaderPreview

/-- A **flag** of the command line. -/
inductive Flag where
  | help
  | width
  | height
  | logLevel
  deriving DecidableEq, Repr

namespace Flag

/-- The **spellings of a flag**. -/
def spellings : Flag → List String
  | .help => ["-h", "--help"]
  | .width => ["--width"]
  | .height => ["--height"]
  | .logLevel => ["--log-level"]

/-- All flags, in the order in which they are explained. -/
def all : List Flag := [.help, .width, .height, .logLevel]

/-- Every spelling **with its flag**. -/
def table : List (String × Flag) := all.flatMap fun f => f.spellings.map fun s => (s, f)

/-- The flag with a given spelling. -/
def ofSpelling? (spelling : String) : Option Flag := table.lookup spelling

/-- How a flag is called in a complaint. -/
def label (f : Flag) : String := "/".intercalate f.spellings

end Flag

namespace CommandLine

/-- The name of the program. -/
def programName : String := "shadergen"

/-- The names of the log levels, as a choice. -/
def levelNames : List String := Level.all.map Level.name

/-- The names of the log levels between braces. -/
def levelChoice : String := "\x7b" ++ ",".intercalate levelNames ++ "\x7d"

/-- **How the program is called**. -/
def usage : String :=
  "usage: shadergen [-h] [--width WIDTH] [--height HEIGHT]\n                 [--log-level "
    ++ levelChoice ++ "]\n                 bundle\n"

/-- What the program does and **what its arguments mean**. -/
def help : String :=
  usage ++ "\nRender a generated vertex/fragment shader bundle.\n\npositional arguments:\n"
    ++ "  bundle                bundle file, or '-' to read stdin\n\noptions:\n"
    ++ "  -h, --help            show this help message and exit\n  --width WIDTH\n"
    ++ "  --height HEIGHT\n  --log-level " ++ levelChoice ++ "\n"

end CommandLine

end ShaderPreview
