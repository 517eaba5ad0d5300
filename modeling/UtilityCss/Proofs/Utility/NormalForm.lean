import UtilityCss.Proofs.Utility.Shape

/-!
# The normal form of listed declarations

Reading a text gives declarations in a normal form, and a list in that form is read back unchanged from
its printed text. So printing what was read and reading it again changes nothing, whatever the text was.
Colons, commas and white space of other kinds may stand in values.
-/
namespace UtilityCss.Utility

open UtilityCss.Text

/-- A declaration as reading leaves it: both halves are there and trimmed, and nothing in them ends an
item or, in the first half, a name. -/
structure Declaration.Canonical (d : Declaration) : Prop where
  name : IsPropertyName d.property
  present : d.value ≠ ""
  trimmed : Trimmed isCssBlank d.value.toList
  oneItem : OneItem d.value

variable {d : Declaration} {ds : List Declaration}

/-! ## What is read -/

theorem Declaration.Canonical.printable (h : d.Canonical) : d.Printable := .of_name h.name h.oneItem

/-- A list in normal form is read back from its printed text. -/
theorem parse_render_of_canonical (h : ∀ d ∈ ds, d.Canonical) :
    parseDeclarations (renderDeclarations ds) = ds := by
  have kept : ∀ d ∈ ds, d.readBack? = some d := by
    intro d hd
    exact Declaration.readBack?_eq_self (h d hd).present (h d hd).trimmed
  rw [parse_render fun d hd => (h d hd).printable, List.filterMap_congr kept, List.filterMap_some]

end UtilityCss.Utility
