import UtilityCss.Text.Blank

/-!
# The root block

The variables that utilities fall back on are declared in one block at the root of the document. Lines
of further declarations, such as those of a palette, follow them; each is trimmed and empty lines are
left out.
-/
namespace UtilityCss.Preset

open UtilityCss.Text

/-- The built-in variables. -/
def builtinVariables : List (String × String) :=
  [("--tui-inset-shadow", "0 0 #0000"), ("--tui-inset-ring-shadow", "0 0 #0000"),
   ("--tui-shadow", "0 0 #0000"), ("--tui-ring-shadow", "0 0 #0000"),
   ("--tui-ring-offset-shadow", "0 0 #0000"), ("--tui-ring-offset-width", "0px"),
   ("--tui-ring-inset", " "), ("--tui-ring-offset-color", "#fff"), ("--tui-move-x", "0"),
   ("--tui-move-y", "0"), ("--ease-in", "cubic-bezier(0.4, 0, 1, 1)"),
   ("--ease-out", "cubic-bezier(0, 0, 0.2, 1)"), ("--ease-in-out", "cubic-bezier(0.4, 0, 0.2, 1)"),
   ("--default-transition-duration", "150ms"),
   ("--default-transition-timing-function", "cubic-bezier(0.4, 0, 0.2, 1)")]

/-- The lines of a text that are not blank, trimmed. -/
def trimmedLines (text : String) : List String :=
  ((text.toList.splitOn '\n').map (trim isBlank)).filterMap fun line =>
    if line.isEmpty then none else some (String.ofList line)

/-- The lines inside the block. -/
def rootLines (entries : List (String × String)) (extra : Option String) : List String :=
  entries.map (fun (name, value) => name ++ ": " ++ value ++ ";") ++
    trimmedLines (extra.getD "")

/-- Writes the block. -/
def rootCss (entries : List (String × String)) (extra : Option String) : String :=
  ":root \x7b\n" ++ String.join ((rootLines entries extra).map fun l => "  " ++ l ++ "\n") ++ "\x7d"

example : rootCss [("--a", "1")] (some " --b: 2;\r\n\n") = ":root \x7b\n  --a: 1;\n  --b: 2;\n\x7d" := by
  decide +kernel

end UtilityCss.Preset
