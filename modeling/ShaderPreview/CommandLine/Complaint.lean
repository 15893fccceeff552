import ShaderPreview.CommandLine.Flag

/-!
# Complaints About a Command Line

Why a command line is not carried out: it asks for help, or something is wrong with it.

## Main definitions

* `Complaint`: what can be wrong, with `Complaint.message`.
* `Refusal`: help or a complaint, with what is printed and the exit code.
-/

namespace ShaderPreview

/-- **What is wrong** with a command line. -/
inductive Complaint where
  /-- An abbreviation of several spellings. -/
  | ambiguous (text : String) (spellings : List String)
  /-- A flag stands without the value it needs. -/
  | missingValue (flag : Flag)
  /-- A flag has a value that is no whole number. -/
  | notANumber (flag : Flag) (value : String)
  /-- The log level is none of the levels. -/
  | notALevel (value : String)
  /-- A flag has a value that it does not take. -/
  | needlessValue (flag : Flag) (value : String)
  /-- No bundle is named. -/
  | missingBundle
  /-- Some arguments mean nothing. -/
  | unrecognized (texts : List String)
  deriving DecidableEq, Repr

/-- A complaint about a flag. -/
def Flag.complain (flag : Flag) (words : String) : String :=
  "argument " ++ flag.label ++ ": " ++ words

/-- The **wording of a complaint**. -/
def Complaint.message : Complaint → String
  | .ambiguous text spellings =>
    "ambiguous option: " ++ text ++ " could match " ++ ", ".intercalate spellings
  | .missingValue flag => flag.complain "expected one argument"
  | .notANumber flag value => flag.complain ("invalid int value: " ++ Text.quote value)
  | .notALevel value =>
    Flag.logLevel.complain ("invalid choice: " ++ Text.quote value ++ " (choose from "
      ++ ", ".intercalate (CommandLine.levelNames.map Text.quote) ++ ")")
  | .needlessValue flag value =>
    flag.complain ("ignored explicit argument " ++ Text.quote value)
  | .missingBundle => "the following arguments are required: bundle"
  | .unrecognized texts => "unrecognized arguments: " ++ " ".intercalate texts

/-- Why a command line is **not carried out**. -/
inductive Refusal where
  | help
  | complaint (c : Complaint)
  deriving DecidableEq, Repr

namespace Refusal

/-- The exit code. -/
def exitCode : Refusal → Nat
  | .help => 0
  | .complaint _ => 2

/-- What goes to standard output. -/
def output : Refusal → String
  | .help => CommandLine.help
  | .complaint _ => ""

/-- What goes to standard error. -/
def errorOutput : Refusal → String
  | .help => ""
  | .complaint c => CommandLine.usage ++ CommandLine.programName ++ ": error: " ++ c.message ++ "\n"

end Refusal

end ShaderPreview
