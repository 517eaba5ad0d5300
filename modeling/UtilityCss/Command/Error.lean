import UtilityCss.Command.Arguments
import UtilityCss.Preset.Error

/-!
# Why a command fails

A failure is shown with its cause, if it has one of its own. A command that does not exist is answered
with the usage.
-/
namespace UtilityCss.Command

inductive CommandError where
  | missingCommand
  | unknownCommand (name : String)
  | arguments (fault : ArgumentError)
  | unknownMode (name : String)
  | preset (fault : PresetError)
  | palette (fault : Palette.PaletteError)
  | missingUtility
  | noDeclarations (utility : String)

namespace CommandError

def message : CommandError → String
  | .missingCommand => "missing command"
  | .unknownCommand name => "unknown command '" ++ name ++ "'"
  | .arguments f => f.message
  | .unknownMode name =>
    "unknown mode '" ++ name ++ "', expected css, class, alias or reference"
  | .preset e => e.message
  | .palette e => e.message
  | .missingUtility => "resolve needs a utility name"
  | .noDeclarations utility => "'" ++ utility ++ "' produced no declarations"

def cause? : CommandError → Option String
  | .preset e => e.cause?
  | _ => none

/-- The usage is shown before the message. -/
def showsUsage : CommandError → Bool
  | .missingCommand | .unknownCommand _ => true
  | _ => false

/-- Puts four spaces before each line. -/
def indented (text : String) : String :=
  String.ofList ("    ".toList ++ text.toList.flatMap fun c =>
    if c = '\n' then "\n    ".toList else [c])

/-- The failure as it is shown. -/
def report (e : CommandError) : String :=
  let cause := match e.cause? with
    | some text => "\n\nCaused by:\n" ++ indented text
    | none => ""
  "Error: " ++ e.message ++ cause ++ "\n"

end CommandError

end UtilityCss.Command
