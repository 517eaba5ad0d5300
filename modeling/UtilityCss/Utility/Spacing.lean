import UtilityCss.Utility.Entry

/-!
# Spacing and sizes

Gaps, margins, padding, widths and heights are measured on the spacing scale; widths and heights also
have named sizes. A key picks a side or a bound.
-/
namespace UtilityCss.Utility

/-- The named widths of containers. -/
def containerSizes : Aliases :=
  [("3xs", "16rem"), ("2xs", "18rem"), ("xs", "20rem"), ("sm", "24rem"), ("md", "28rem"),
   ("lg", "32rem"), ("xl", "36rem"), ("2xl", "42rem"), ("3xl", "48rem"), ("4xl", "56rem"),
   ("5xl", "64rem"), ("6xl", "72rem"), ("7xl", "80rem")]

def widthSizes : List Aliases := [containerSizes, [("screen", "100vw")]]

def heightSizes : List Aliases := [containerSizes, [("screen", "100vh")]]

/-- The utilities of one property each. -/
def spacingProperties : List (String × String) :=
  [("top", "top"), ("right", "right"), ("bottom", "bottom"), ("left", "left"), ("inset", "inset"),
   ("gap", "gap"), ("gap-x", "columnGap"), ("gap-y", "rowGap"), ("min-w", "minWidth"),
   ("min-h", "minHeight"), ("max-w", "maxWidth"), ("max-h", "maxHeight"), ("mt", "marginTop"),
   ("mr", "marginRight"), ("mb", "marginBottom"), ("ml", "marginLeft"), ("mx", "marginInline"),
   ("my", "marginBlock"), ("pt", "paddingTop"), ("pr", "paddingRight"), ("pb", "paddingBottom"),
   ("pl", "paddingLeft"), ("py", "paddingBlock"), ("px", "paddingInline")]

def spacingEntries : List (String × Entry) :=
  spacingProperties.map fun (utility, property) => (utility, .property property (.sizing []))

/-- A size in both directions. -/
def boxSize (tables : List Aliases) : Entry := .declare (.fixed ["width", "height"]) (.sizing tables)

def paddingSides : List (String × List String) :=
  [("x", ["paddingInline"]), ("y", ["paddingBlock"]), ("t", ["paddingTop"]),
   ("r", ["paddingRight"]), ("b", ["paddingBottom"]), ("l", ["paddingLeft"])]

def marginSides : List (String × List String) :=
  [("x", ["marginInline"]), ("y", ["marginBlock"]), ("t", ["marginTop"]), ("r", ["marginRight"]),
   ("b", ["marginBottom"]), ("l", ["marginLeft"])]

def widthBounds : List (String × List String) := [("min", ["minWidth"]), ("max", ["maxWidth"])]

def heightBounds : List (String × List String) := [("min", ["minHeight"]), ("max", ["maxHeight"])]

def width : Entry := .declare (.directional ["width"] widthBounds) (.sizing widthSizes)

def height : Entry := .declare (.directional ["height"] heightBounds) (.sizing heightSizes)

def padding : Entry := .declare (.directional ["padding"] paddingSides) (.sizing [])

def margin : Entry := .declare (.directional ["margin"] marginSides) (.sizing [])

end UtilityCss.Utility
