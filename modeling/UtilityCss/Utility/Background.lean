import UtilityCss.Utility.ColorValue
import UtilityCss.Utility.Rule

/-!
# Backgrounds

The background utility sets one of several properties, which its key names or its value suggests. The
clip and origin utilities name a box.
-/
namespace UtilityCss.Utility

/-- The text holds the pattern. -/
def holdsText (pattern : List Char) : List Char → Bool
  | [] => pattern.isEmpty
  | c :: r => pattern.isPrefixOf (c :: r) || holdsText pattern r

/-- The text holds a digit that is followed by a percent sign or by the unit for pixels. -/
def holdsOffset : List Char → Bool
  | [] => false
  | c :: r =>
    (Text.isDigit c && (['%'].isPrefixOf r || ['p', 'x'].isPrefixOf r)) || holdsOffset r

def positionKeywords : List String := ["top", "bottom", "left", "right", "center"]

/-- The text holds a position keyword or an offset. -/
def looksLikePosition (text : String) : Bool :=
  positionKeywords.any (fun k => holdsText k.toList text.toList) || holdsOffset text.toList

/-- The sub-properties in the order in which they are tried. -/
def backgroundRules : List (Rule String) :=
  [⟨"color", isColorToken, "backgroundColor"⟩,
   ⟨"attachment", fun t => ["fixed", "scroll", "local"].contains t.value, "backgroundAttachment"⟩,
   ⟨"repeat", fun t => ["repeat", "repeat-x", "repeat-y", "no-repeat"].contains t.value,
     "backgroundRepeat"⟩,
   ⟨"size", fun t => ["cover", "contain", "auto"].contains t.value || Value.isLength t.joined,
     "backgroundSize"⟩,
   ⟨"position", fun t => looksLikePosition t.joined, "backgroundPosition"⟩,
   ⟨"image", keyedOnly, "backgroundImage"⟩,
   ⟨"clip", keyedOnly, "backgroundClip"⟩,
   ⟨"origin", keyedOnly, "backgroundOrigin"⟩]

def backgroundProperty (t : Token) : String := (firstMatch backgroundRules t).getD "background"

/-- A color with its opacity, else the value with its unit. -/
def backgroundValue (t : Token) (context : Context) : Option String :=
  if t.value.isEmpty then none
  else if t.key == "color" || (t.key.isEmpty && isColorToken t) then some (colorValue t context)
  else some t.joined

def background : Entry :=
  .declare (.keyed fun t _ => [backgroundProperty t]) (.computed backgroundValue)

/-- The name of a box; text is no box and stands for itself. -/
def boxKeyword (t : Token) : Option String :=
  if t.value.isEmpty then none
  else if t.value == "text" then some "text"
  else some (t.value ++ "-box")

def backgroundClip : Entry := .property "backgroundClip" (.computed fun t _ => boxKeyword t)

def backgroundOrigin : Entry := .property "backgroundOrigin" (.computed fun t _ => boxKeyword t)

example : ["center", "left-top", "50%", "10px_20px"].all looksLikePosition = true ∧
    ["cover", "12rem", ""].any looksLikePosition = false := by decide +kernel

end UtilityCss.Utility
