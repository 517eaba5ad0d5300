import UtilityCss.Utility.Background
import UtilityCss.Utility.Layout
import UtilityCss.Utility.Line
import UtilityCss.Utility.Motion
import UtilityCss.Utility.Shadow
import UtilityCss.Utility.Spacing
import UtilityCss.Utility.Table
import UtilityCss.Utility.Typography

/-!
# The built-in utilities

Ten named tables in the order in which they are merged. One utility is in two of them: the entry for a
size in both directions that knows the named sizes replaces the one that does not.
-/
namespace UtilityCss.Utility

def builtinTables : List NamedTable :=
  [⟨"defaults", plainEntries ++ templateEntries⟩,
   ⟨"sizing", spacingEntries ++ [("size", boxSize [])]⟩,
   ⟨"filters",
    [("blur", blur "filter"), ("backdrop-blur", blur "backdropFilter"), ("drop-shadow", dropShadow),
     ("backdrop-opacity", backdropOpacity)] ++ filterFunctions.flatMap filterEntries⟩,
   ⟨"spacing",
    [("w", width), ("h", height), ("size", boxSize [containerSizes]), ("p", padding),
     ("m", margin)]⟩,
   ⟨"background",
    [("bg", background), ("bg-clip", backgroundClip), ("bg-origin", backgroundOrigin)]⟩,
   ⟨"typography",
    [("text", text), ("font", font), ("tracking", tracking), ("leading", leading),
     ("decoration", decoration), ("underline-offset", underlineOffset), ("indent", indent)]⟩,
   ⟨"borders",
    [("radius", radius), ("border", border), ("outline", outline), ("ring", ring),
     ("ring-offset", ringOffset)]⟩,
   ⟨"effects", [("shadow", shadow)]⟩,
   ⟨"transitions",
    [("transition", transition), ("ease", ease), ("duration", duration), ("delay", delay)]⟩,
   ⟨"transforms", [("move", move), ("move-x", moveX), ("move-y", moveY)]⟩]

/-- All built-in utilities, with the messages of their merge. -/
def builtinMerge : PropertyTable × List Message := PropertyTable.merge builtinTables

def builtinTable : PropertyTable := builtinMerge.1

end UtilityCss.Utility
