/-!
# The steps of a ramp

A ramp has eleven steps, from the lightest to the darkest. Their labels are the numbers in generated
names; the sixth step carries the base color.
-/
namespace UtilityCss.Palette

inductive Step where
  | s50 | s100 | s200 | s300 | s400 | s500 | s600 | s700 | s800 | s900 | s950
  deriving DecidableEq, Repr

namespace Step

/-- All steps, the lightest first. -/
def all : List Step :=
  [s50, s100, s200, s300, s400, s500, s600, s700, s800, s900, s950]

def label : Step → String
  | s50 => "50"
  | s100 => "100"
  | s200 => "200"
  | s300 => "300"
  | s400 => "400"
  | s500 => "500"
  | s600 => "600"
  | s700 => "700"
  | s800 => "800"
  | s900 => "900"
  | s950 => "950"

/-- The position among all steps, counted from zero. -/
def ordinal : Step → Nat
  | s50 => 0
  | s100 => 1
  | s200 => 2
  | s300 => 3
  | s400 => 4
  | s500 => 5
  | s600 => 6
  | s700 => 7
  | s800 => 8
  | s900 => 9
  | s950 => 10

theorem label_injective {s t : Step} (h : s.label = t.label) : s = t := by
  revert h
  cases s <;> cases t <;> simp [label]

/-- The steps in the order in which a ramp assigns its shades. In a dark palette the names are
reversed, so that the lightest shade has the darkest name. -/
def walk (dark : Bool) : List Step := if dark then all.reverse else all

end Step

end UtilityCss.Palette
