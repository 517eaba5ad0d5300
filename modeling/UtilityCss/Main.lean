import UtilityCss.Command.Run

/-!
# The program

The program reads the one file that a run may ask for, runs the command, and passes on its texts and
its code.
-/
open UtilityCss UtilityCss.Command

/-- Names the fault of an input error. -/
def fileFault (e : IO.Error) : FileFault :=
  match e with
  | .noFileOrDirectory .. => .missing
  | .inappropriateType .. => .directory
  | .permissionDenied .. => .denied
  | e => .other (toString e)

/-- Reads a file of text. -/
def readText (path : String) : IO (Except FileFault String) := do
  try
    let bytes ← IO.FS.readBinFile path
    return match String.fromUTF8? bytes with
      | some text => .ok text
      | none => .error .encoding
  catch e => return .error (fileFault e)

def main (words : List String) : IO UInt32 := do
  let file ← match configPath? words with
    | some path => readText path
    | none => pure (.error .missing)
  let outcome := run (fun _ => file) words
  (← IO.getStderr).putStr outcome.errors
  (← IO.getStdout).putStr outcome.output
  return outcome.code.toUInt32
