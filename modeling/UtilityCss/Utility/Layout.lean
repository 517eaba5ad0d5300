import UtilityCss.Utility.Entry

/-!
# Placement, stacking and opacity

Utilities that set one property to their value, with a template where numbers have a meaning of their
own.
-/
namespace UtilityCss.Utility

/-- The utilities that pass their value on. -/
def plainProperties : List (String × String) :=
  [("columns", "columns"), ("align", "verticalAlign"), ("whitespace", "whiteSpace"),
   ("hyphens", "hyphens"), ("content", "content"), ("isolation", "isolation"), ("order", "order"),
   ("z", "zIndex"), ("col", "gridColumn"), ("col-start", "gridColumnStart"),
   ("col-end", "gridColumnEnd"), ("row", "gridRow"), ("row-start", "gridRowStart"),
   ("row-end", "gridRowEnd"), ("grid-flow", "gridAutoFlow"), ("auto-cols", "gridAutoColumns"),
   ("auto-rows", "gridAutoRows"), ("filter", "filter"), ("backdrop-filter", "backdropFilter")]

def plainEntries : List (String × Entry) :=
  plainProperties.map fun (utility, property) => (utility, .property property)

/-- Equal tracks of a grid. -/
def repeatTracks : ValueSpec := .template "repeat(\x7b0\x7d, minmax(0, 1fr))"

/-- A number of tracks from both ends. -/
def span : ValueSpec := .template "span \x7b0\x7d / span \x7b0\x7d"

/-- The factor of a flexible box, which is one if no value is given. -/
def flexFactor (property : String) : Entry :=
  .property property (.computed fun t _ => some (if t.joined.isEmpty then "1" else t.joined))

def templateEntries : List (String × Entry) :=
  [("opacity", .property "opacity" (.template "\x7b0\x7d%")),
   ("outline-offset", .property "outlineOffset" (.template "\x7b0\x7dpx")),
   ("grid-cols", .property "gridTemplateColumns" repeatTracks),
   ("grid-rows", .property "gridTemplateRows" repeatTracks),
   ("col-span", .property "gridColumn" span),
   ("row-span", .property "gridRow" span),
   ("shrink", flexFactor "flexShrink"),
   ("grow", flexFactor "flexGrow")]

end UtilityCss.Utility
