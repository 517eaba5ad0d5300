/-!
# Value templates

A template is a text with places for a value, each written as a zero in braces. Filling replaces
every place, from left to right; the value that is put in is not searched again.
-/
namespace UtilityCss.Value

/-- Replaces each place for the value. -/
def fill (value : List Char) : List Char → List Char
  | '\x7b' :: '0' :: '\x7d' :: r => value ++ fill value r
  | c :: r => c :: fill value r
  | [] => []

def substitute (template value : String) : String :=
  String.ofList (fill value.toList template.toList)

example : substitute "span \x7b0\x7d / span \x7b0\x7d" "2" = "span 2 / span 2" := by decide +kernel

example : substitute "\x7b0\x7d" "\x7b0\x7d" = "\x7b0\x7d" := by decide +kernel

end UtilityCss.Value
