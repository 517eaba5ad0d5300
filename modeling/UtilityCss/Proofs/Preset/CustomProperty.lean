import UtilityCss.Preset.StaticClass
import UtilityCss.Proofs.Utility.PropertyName
import UtilityCss.Utility.Entry

/-!
# Custom properties

The name of a custom property starts with two hyphens and counts as it is written. Hyphenating keeps the two
hyphens, and the rest of the name exactly if it has no capital. A custom property with a capital is declared
under the name of another one, by static classes and by utilities alike.
-/
namespace UtilityCss.Preset

open UtilityCss.Text UtilityCss.Utility

variable {name value : String}

/-- A custom property becomes a custom property. -/
theorem toKebabCase_custom (name : String) : toKebabCase ("--" ++ name) = "--" ++ toKebabCase name := by
  simp [toKebabCase, ← String.toList_inj, hyphenate, isUpper]

theorem toKebabCase_custom_eq_self_iff :
    toKebabCase ("--" ++ name) = "--" ++ name ↔ ∀ c ∈ name.toList, isUpper c = false := by
  rw [toKebabCase_custom, String.append_right_inj, toKebabCase_eq_self_iff]

/-- A property is declared under its own name exactly if hyphenating keeps the name. -/
theorem declaration_eq_iff {property : String} :
    (⟨toKebabCase property, value⟩ : Declaration) = ⟨property, value⟩ ↔
      toKebabCase property = property := by
  rw [Declaration.mk.injEq, and_iff_left rfl]

/-- The declaration that is added is behind those that the class had. -/
theorem ClassTable.get?_add_self_iff {t : ClassTable} {cls property : String} :
    (t.add cls property value).get? cls = some ((t.get? cls).getD [] ++ [⟨property, value⟩]) ↔
      toKebabCase property = property := by
  rw [ClassTable.get?_add, if_pos rfl, Option.some.injEq, List.append_cancel_left_eq, List.cons.injEq,
    and_iff_left rfl, declaration_eq_iff]

theorem getElem?_declarations_iff {names : List String} {i : Nat} {property : String}
    (declared : names[i]? = some property) :
    (Resolved.properties names value).declarations[i]? = some ⟨property, value⟩ ↔
      toKebabCase property = property := by
  rw [Resolved.declarations, List.getElem?_map, declared, Option.map_some, Option.some.injEq,
    declaration_eq_iff]

/-- A custom property passes through exactly if there is no capital in its name: only then hyphenating keeps
it, a static class gets a declaration of it, and a utility that resolves to it declares it. It is a custom
property in any case, the declarations of other classes are kept, and with a capital in its name it is not told
from the property whose name has a hyphen and the small letter in place of each capital. -/
theorem custom_property_passes_iff (name value cls : String) (table : ClassTable) :
    let property := "--" ++ name
    let plain := ∀ c ∈ name.toList, isUpper c = false
    (toKebabCase property = property ↔ plain) ∧
    ((table.add cls property value).get? cls =
        some ((table.get? cls).getD [] ++ [⟨property, value⟩]) ↔ plain) ∧
    (∀ (names : List String) (i : Nat), names[i]? = some property →
      ((Resolved.properties names value).declarations[i]? = some ⟨property, value⟩ ↔ plain)) ∧
    toKebabCase property = "--" ++ toKebabCase name ∧
    (∀ other, other ≠ cls → (table.add cls property value).get? other = table.get? other) ∧
    table.add cls (toKebabCase property) value = table.add cls property value := by
  intro property plain
  have kept : toKebabCase property = property ↔ plain := toKebabCase_custom_eq_self_iff
  refine ⟨kept, ClassTable.get?_add_self_iff.trans kept, ?_, toKebabCase_custom name, ?_, ?_⟩
  · intro names i declared
    exact (getElem?_declarations_iff declared).trans kept
  · intro other differ
    rw [ClassTable.get?_add, if_neg differ]
  · rw [ClassTable.add, ClassTable.add, toKebabCase_toKebabCase]

/-- Digits, hyphens and capitals beyond ASCII pass through. -/
theorem custom_property_passes_for_small_letters :
    let table : ClassTable := .ofList [("card", [⟨"color", "red"⟩])]
    (table.add "card" "--tui-Ärger-2" "1").get? "card" =
      some [⟨"color", "red"⟩, ⟨"--tui-Ärger-2", "1"⟩] ∧
    (Resolved.properties ["color", "--tui-Ärger-2"] "1").declarations[1]? =
      some ⟨"--tui-Ärger-2", "1"⟩ := by
  intro table
  have all : ("tui-Ärger-2".toList.all fun c => !isUpper c) = true := by decide +kernel
  have plain : ∀ c ∈ "tui-Ärger-2".toList, isUpper c = false := by
    intro c inside
    simpa using List.all_eq_true.mp all c inside
  obtain ⟨-, added, declared, -⟩ :=
    custom_property_passes_iff "tui-Ärger-2" "1" "card" table
  exact ⟨added.mpr plain, (declared ["color", "--tui-Ärger-2"] 1 rfl).mpr plain⟩

/-- A capital in the name of a custom property is lost. -/
theorem custom_property_loses_capital :
    toKebabCase "--myVar" ≠ "--myVar" ∧
    (ClassTable.add .empty "card" "--myVar" "1").get? "card" = some [⟨"--my-var", "1"⟩] ∧
    (Resolved.properties ["--myVar"] "1").declarations = [⟨"--my-var", "1"⟩] := by
  have kebab : toKebabCase "--myVar" = "--my-var" := by decide +kernel
  refine ⟨by rw [kebab]; decide, ?_, ?_⟩
  · rw [ClassTable.get?_add, if_pos rfl, kebab]
    rfl
  · rw [Resolved.declarations, List.map_singleton, kebab]

end UtilityCss.Preset
