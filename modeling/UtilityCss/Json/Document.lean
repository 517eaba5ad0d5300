import UtilityCss.Json.Text

/-!
# Whole JSON texts

A text is one value with blanks around it. Faults are given their place in the text.
-/
namespace UtilityCss.Json

/-- Reads a text that is one value. -/
def readText {α : Type} (read : Reader α) (text : String) : Except (Fault Position) α :=
  match read text.toList with
  | .error f => .error (f.locate text.toList)
  | .ok (a, rest) => if (skipBlank rest).isEmpty then .ok a else .error .malformed

end UtilityCss.Json
