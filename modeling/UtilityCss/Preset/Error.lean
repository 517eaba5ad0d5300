import UtilityCss.Json.Fault
import UtilityCss.Palette.Error

/-!
# Why there is no preset

A configuration may not be readable, may not be JSON of the right form, or may hold values that no
utility and no palette can work with.
-/
namespace UtilityCss

/-- Why a file is not read. -/
inductive FileFault where
  | missing
  | directory
  | notDirectory
  | denied
  | encoding
  | other (text : String)
  deriving DecidableEq, Repr

def FileFault.message : FileFault → String
  | .missing => "No such file or directory (os error 2)"
  | .directory => "Is a directory (os error 21)"
  | .notDirectory => "Not a directory (os error 20)"
  | .denied => "Permission denied (os error 13)"
  | .encoding => "stream did not contain valid UTF-8"
  | .other text => text

inductive PresetError where
  | unreadable (path : String) (fault : FileFault)
  | invalidText (fault : Json.Fault Json.Position)
  | invalidSizing (sizing : Float)
  | invalidAdjustments
  | palette (fault : Palette.PaletteError)

namespace PresetError

/-- The error in words, with a fault of the text in the given words. -/
def describe (fault : Json.Fault Json.Position → String) : PresetError → String
  | .unreadable path f => "cannot read config '" ++ path ++ "': " ++ f.message
  | .invalidText f => "invalid config: " ++ fault f
  | .invalidSizing x => "sizing must be finite and positive, got " ++ Decimal.ofFloat x
  | .invalidAdjustments => "adjustment factors must be finite and positive"
  | .palette e => e.message

/-- The error in words, with the place of a mismatch. -/
def message : PresetError → String := describe Json.Fault.message

/-- The error in words, without any place. -/
def summary : PresetError → String := describe Json.Fault.reason

/-- What lies behind the error, where something does. -/
def cause? : PresetError → Option String
  | .unreadable _ f => some f.message
  | .invalidText f => some f.message
  | .palette e => some e.message
  | .invalidSizing _ | .invalidAdjustments => none

end PresetError

end UtilityCss
