/-!
# Shorthand classes

A shorthand is a class name that stands for another one. An expansion is not expanded again.
-/
namespace UtilityCss.Preset

def shorthands : List (String × String) :=
  [("isolate", "isolation-isolate"), ("flex-row", "[flex-direction]-row"),
   ("flex-col", "[flex-direction]-column"), ("flex-row-reverse", "[flex-direction]-row-reverse"),
   ("flex-col-reverse", "[flex-direction]-column-reverse"), ("flex-wrap", "[flex-wrap]-wrap"),
   ("flex-nowrap", "[flex-wrap]-nowrap"), ("flex-wrap-reverse", "[flex-wrap]-wrap-reverse"),
   ("grid-cols-none", "grid-cols-[none]"), ("grid-cols-subgrid", "grid-cols-[subgrid]"),
   ("col-span-full", "col-span-[1_/_-1]"), ("col-start-auto", "col-start-[auto]"),
   ("col-end-auto", "col-end-[auto]"), ("grid-rows-none", "grid-rows-[none]"),
   ("grid-rows-subgrid", "grid-rows-[subgrid]"), ("row-span-full", "row-span-[1_/_-1]"),
   ("row-start-auto", "row-start-[auto]"), ("row-end-auto", "row-end-[auto]")]

/-- The class that a shorthand stands for. -/
def expand? (name : String) : Option String := shorthands.lookup name

example : (shorthands.map Prod.fst).Nodup := by decide +kernel

example : expand? "flex-col" = some "[flex-direction]-column" ∧ expand? "flex" = none := by
  decide +kernel

end UtilityCss.Preset
