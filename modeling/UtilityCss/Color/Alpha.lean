import UtilityCss.Color.Format

/-!
# Opacity of written colors

An opacity can be put into a color that is written in the configured format and has none yet. Other
texts are passed through, except for the keyword for the current text color.
-/
namespace UtilityCss.Color

/-- The keyword for the current text color. -/
def currentKeyword : String := "current"

/-- The text is written in the format and has room for an opacity: it starts with the name of the
format, ends with a parenthesis and has no slash. -/
def Format.acceptsAlpha (format : Format) (value : String) : Bool :=
  let cs := value.toList
  format.name.toList.isPrefixOf cs && cs.getLast? == some ')' && !cs.contains '/'

/-- Puts an opacity before the closing parenthesis; without a unit it is a percentage. -/
def composeAlpha (value alpha unit : String) (format : Format) : String :=
  if value == currentKeyword then "currentColor"
  else if !format.acceptsAlpha value || alpha.isEmpty then value
  else
    String.ofList value.toList.dropLast ++ " / " ++ alpha ++ (if unit.isEmpty then "%" else unit) ++
      ")"

end UtilityCss.Color
