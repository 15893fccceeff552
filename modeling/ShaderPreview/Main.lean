import ShaderPreview.CommandLine.Preview

/-!
# The Program

The command line on a system without a display: files and standard input are read, and every call
that needs a display or a graphics context is refused. Notices are printed as they come, each record
behind the milliseconds that the system has been up.

## Main definitions

* `Console.answer`: how this system answers the calls of the platform.
* `Console.perform`: carries out a dialogue.
-/

namespace ShaderPreview

namespace Console

/-- The fault of a file that could not be read. -/
def fileFault (path : String) : IO.Error → Fault
  | .noFileOrDirectory .. => .file (.notFound path)
  | .inappropriateType _ code _ =>
    .file (if code = 21 then .isADirectory path else .notADirectory path)
  | .permissionDenied _ code words => .file (.unreadable code.toNat words path)
  | error => .file (.unreadable 5 (toString error) path)

/-- The bytes of a file, or why there are none. -/
def readFile (path : String) : IO (Except Fault (List UInt8)) := do
  if path.toList.contains '\x00' then return .error .impossiblePath
  try return .ok (← IO.FS.readBinFile path).toList
  catch error => return .error (fileFault path error)

/-- The bytes of standard input. -/
def readInput : IO (Except Fault (List UInt8)) := do
  try return .ok (← (← IO.getStdin).readBinToEnd).toList
  catch error => return .error (fileFault Preview.inputName error)

/-- **How this system answers**: there are files, input and a clock, and no display. -/
def answer : (call : Platform.Call) → IO (Except Fault (Platform.Reply call))
  | .readFile path => readFile path.toString
  | .readInput => readInput
  | .now => return .ok (Float.ofNat (← IO.monoMsNow) / 1000.0)
  | .quit => return .ok ()
  | .mark .. => return .ok ()
  | _ => return .error (.broken "no display on this system")

/-- Prints a notice, unless it is below a level. -/
def print (threshold : Level) (notice : Notice) : IO Unit := do
  let stamp := toString (← IO.monoMsNow)
  IO.eprint (notice.shown threshold stamp)

/-- **Carries out** a dialogue with the platform. -/
def perform {σ α : Type} (threshold : Level) : Dialogue Platform σ α → IO (Except Fault α)
  | .done result _ => return result
  | .ask _ call next => do
    let reply ← answer call
    perform threshold (next reply)
  | .tell notice next => do
    print threshold notice
    perform threshold next

/-- The number of refreshes that a window may last. -/
def maxRefreshes : Nat := 1000000000

end Console

end ShaderPreview

open ShaderPreview in
def main (texts : List String) : IO UInt32 := do
  match Arguments.parse texts with
  | .error refusal =>
    IO.print refusal.output
    IO.eprint refusal.errorOutput
    return refusal.exitCode.toUInt32
  | .ok arguments =>
    let threshold := arguments.level.getD .info
    match ← Console.perform threshold (Preview.run Console.maxRefreshes arguments none) with
    | .ok exit => return exit.code.toUInt32
    | .error fault =>
      IO.eprintln fault.message
      return 1
