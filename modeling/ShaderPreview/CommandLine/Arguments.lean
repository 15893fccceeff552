import ShaderPreview.CommandLine.Token

/-!
# The Arguments of the Command Line

What a command line asks for: which bundle to show, how large the window is, and from which level on
log records are shown. The tokens take effect from left to right, and the first thing that is wrong
ends the reading. What is left over or missing is complained about at the end only.

The separator is never a flag's value. A flag that it is attached to has its value taken away: this
is no complaint, and a later use of the flag gives it a value again.

## Main definitions

* `Arguments`: what is asked for.
* `Reading`: what has been read so far.
* `Arguments.parse`: reads a command line.
-/

namespace ShaderPreview

/-- **What a command line asks for**. A measure is unknown, and the level missing, if the separator
took its place. -/
structure Arguments where
  bundle : String
  size : ViewSize := ({} : WindowSettings).size
  level : Option Level := some .info
  deriving DecidableEq, Repr

/-- What has been **read so far**: the arguments, whose bundle may still be missing, and the texts
that mean nothing, in order. -/
structure Reading where
  bundle : Option String := none
  size : ViewSize := ({} : WindowSettings).size
  level : Option Level := some .info
  leftOver : List String := []
  deriving DecidableEq, Repr

namespace Reading

/-- Sets a text aside. -/
def setAside (r : Reading) (text : String) : Reading := { r with leftOver := r.leftOver ++ [text] }

/-- The whole number that a flag's value stands for. -/
def number (flag : Flag) (value : String) : Except Refusal Int :=
  match Numeral.parse? value.toList with
  | some n => .ok n
  | none => .error (.complaint (.notANumber flag value))

/-- The log level that a flag's value names. -/
def threshold (value : String) : Except Refusal Level :=
  match Level.ofName? value with
  | some level => .ok level
  | none => .error (.complaint (.notALevel value))

/-- What is attached to the single letter of the **help flag** has to be that letter again, any
number of times. Whatever comes after is a needless value, and so is an empty text. -/
def attachedToHelp (text : List Char) : Refusal :=
  match text, text.dropWhile (· == 'h') with
  | _ :: _, [] => .help
  | _, needless => .complaint (.needlessValue .help (String.ofList needless))

/-- The help flag with what is attached to it. Behind the long spelling any value is needless. -/
def help (attached : Option Attached) : Refusal :=
  match attached with
  | none => .help
  | some ⟨value, short⟩ =>
    if short then attachedToHelp value
    else .complaint (.needlessValue .help (String.ofList value))

/-- A flag **with its value**, or with its value taken away. -/
def give (r : Reading) (flag : Flag) (value : Option String) : Except Refusal Reading :=
  match flag with
  | .help => .error .help
  | .width => (value.mapM (number .width)).map fun width => { r with size.width := width }
  | .height => (value.mapM (number .height)).map fun height => { r with size.height := height }
  | .logLevel => (value.mapM threshold).map fun level => { r with level }

/-- The value that an attached text gives: none if it is the separator. -/
def attachedValue (text : List Char) : Option String :=
  if text = Token.separatorText.toList then none else some (String.ofList text)

/-- **Reads tokens** from left to right. The first plain text is the bundle; a separator next to it
counts with it. -/
def read (r : Reading) : List Token → Except Refusal Reading
  | [] => .ok r
  | .flag .help attached :: _ => .error (help attached)
  | .flag f (some a) :: rest => do
    let r ← r.give f (attachedValue a.value)
    read r rest
  | .flag f none :: .plain text :: rest => do
    let r ← r.give f (some text)
    read r rest
  | .flag f none :: _ => .error (.complaint (.missingValue f))
  | .unknown text :: rest => read (r.setAside text) rest
  | .plain text :: .separator :: rest =>
    if r.bundle.isNone then read { r with bundle := some text } rest
    else read ((r.setAside text).setAside Token.separatorText) rest
  | .plain text :: rest =>
    if r.bundle.isNone then read { r with bundle := some text } rest else read (r.setAside text) rest
  | .separator :: rest =>
    if r.bundle.isNone then read r rest else read (r.setAside Token.separatorText) rest

/-- The **arguments** that were read, if nothing is missing and nothing is left over. -/
def finish (r : Reading) : Except Refusal Arguments :=
  match r.bundle with
  | none => .error (.complaint .missingBundle)
  | some bundle =>
    if r.leftOver.isEmpty then .ok { bundle, size := r.size, level := r.level }
    else .error (.complaint (.unrecognized r.leftOver))

end Reading

/-- **Reads a command line**. -/
def Arguments.parse (texts : List String) : Except Refusal Arguments := do
  let tokens ← (Token.ofArguments texts).mapError .complaint
  let reading ← ({} : Reading).read tokens
  reading.finish

end ShaderPreview
