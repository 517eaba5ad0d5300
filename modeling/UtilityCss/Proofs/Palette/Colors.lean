import UtilityCss.Preset.ConfigText
import UtilityCss.Proofs.Json.Map
import UtilityCss.Proofs.OrderedMap

/-!
# Colors by name

Colors are put together one by one, from lists, from JSON texts and from other colors. In whatever way this
is done, names stand in the order in which they came first, and each has the text that was stored for it
last. Whether a text is a color is not looked at here.
-/
namespace UtilityCss.Palette

open UtilityCss.Json

/-- The colors are made by storing the texts under the names in turn. -/
inductive Made : List (String × String) → Colors → Prop where
  | new : Made [] .empty
  | collected (entries : List (String × String)) : Made entries (.ofList entries)
  | read {text : String} {members : List (String × String)} {colors : Colors}
      (written : IsMapText text members) (found : Colors.ofText text = .ok colors) : Made members colors
  | inserted {stored : List (String × String)} {colors : Colors} (before : Made stored colors)
      (name hex : String) : Made (stored ++ [(name, hex)]) (colors.insert name hex)
  | merged {stored added : List (String × String)} {colors others : Colors}
      (first : Made stored colors) (second : Made added others) :
      Made (stored ++ added) (colors.merged others)

/-- Colors are read from exactly the texts that are maps of strings, and all members are stored in turn. -/
theorem ofText_eq_ok_iff {text : String} {colors : Colors} :
    Colors.ofText text = .ok colors ↔
      ∃ members, IsMapText text members ∧ colors = .ofList members := by
  rw [Colors.ofText, readText_eq_ok_iff]
  constructor
  · rintro ⟨rest, found, ended⟩
    obtain ⟨⟨members, after⟩, listed, same⟩ := map_eq_ok_iff.mp found
    cases same
    exact ⟨members, ⟨_, map_string_eq_ok_iff.mp listed, ended⟩, rfl⟩
  · rintro ⟨members, ⟨rest, written, ended⟩, rfl⟩
    exact ⟨rest, map_eq_ok_iff.mpr ⟨_, map_string_eq_ok_iff.mpr written, rfl⟩, ended⟩

/-- The order and the last texts of what was stored determine the colors, however they were made. -/
theorem Made.eq_ofList {stored : List (String × String)} {colors : Colors} (h : Made stored colors) :
    colors = .ofList stored := by
  induction h with
  | new => rfl
  | collected entries => rfl
  | read written found =>
    have read := ofText_eq_ok_iff.mpr ⟨_, written, rfl⟩
    exact Except.ok.inj (found.symm.trans read)
  | inserted before name hex ih => rw [ih, ← OrderedMap.insertAll_ofList]; rfl
  | merged first second ihFirst ihSecond =>
    rw [ihFirst, ihSecond, OrderedMap.merged_ofList, OrderedMap.insertAll_ofList]

/-- However colors are made, their names are distinct and stand in the order in which they came first, and a
name has the text that was stored for it last. A text that is stored again replaces the old one in place. A
JSON text gives the members that it writes, in turn. Merging is associative, changes nothing where it adds
nothing, keeps the places of the first colors and takes the texts of the second. -/
theorem colors_keep_first_place_and_last_text :
    (∀ stored colors, Made stored colors →
      colors.keys.Nodup ∧ colors.keys = (stored.map Prod.fst).eraseDups ∧
      (∀ name hex, colors.get? name = some hex ↔ OrderedMap.IsLastValue stored name hex) ∧
      ∀ name, colors.get? name = none ↔ name ∉ stored.map Prod.fst) ∧
    (∀ (colors : Colors) name hex, (colors.insert name hex).toList =
      if name ∈ colors.keys then
        colors.toList.map fun entry => (entry.1, if entry.1 = name then hex else entry.2)
      else colors.toList ++ [(name, hex)]) ∧
    (∀ text colors, Colors.ofText text = .ok colors ↔
      ∃ members, IsMapText text members ∧ colors = .ofList members) ∧
    (∀ a b c : Colors, (a.merged b).merged c = a.merged (b.merged c)) ∧
    (∀ a : Colors, a.merged .empty = a ∧ OrderedMap.empty.merged a = a ∧ a.merged a = a) ∧
    ∀ a b : Colors, (a.merged b).merged b = a.merged b ∧
      (a.merged b).keys = a.keys ++ b.keys.filter (fun name => name ∉ a.keys) ∧
      ∀ name, (a.merged b).get? name = (b.get? name).or (a.get? name) := by
  refine ⟨?made, ?inserted, fun _ _ => ofText_eq_ok_iff, OrderedMap.merged_assoc, ?unit, ?merged⟩
  case made =>
    intro stored colors made
    rw [made.eq_ofList]
    exact ⟨OrderedMap.nodup_keys _, OrderedMap.keys_ofList stored,
      fun _ _ => OrderedMap.get?_ofList_eq_some_iff, fun _ => OrderedMap.get?_ofList_eq_none_iff⟩
  case inserted =>
    intro colors name hex
    rw [OrderedMap.toList_insert]
    split
    · next old => exact OrderedMap.put_of_mem name hex old colors.distinct
    · next new => exact OrderedMap.put_of_notMem name hex new
  case unit =>
    intro a
    exact ⟨OrderedMap.merged_empty a, OrderedMap.empty_merged a, OrderedMap.merged_self a⟩
  case merged =>
    intro a b
    exact ⟨OrderedMap.merged_merged_self a b, OrderedMap.keys_merged a b, OrderedMap.get?_merged a b⟩

theorem colors_keep_first_place_and_last_text_for_color_read_again :
    ∃ again, Colors.ofText "\x7b\"sky\": \"#08f\", \"red\": \"#e00\"\x7d" = .ok again ∧
      ((OrderedMap.ofList [("red", "#f00")]).merged again).keys = ["red", "sky"] ∧
      ((OrderedMap.ofList [("red", "#f00")]).merged again).get? "red" = some "#e00" := by
  have written : IsMapText "\x7b\"sky\": \"#08f\", \"red\": \"#e00\"\x7d"
      [("sky", "#08f"), ("red", "#e00")] :=
    ⟨[], (@map_string_eq_ok_iff _ _ _ "").mp (by decide +kernel), [], by simp, rfl⟩
  obtain ⟨made, -, read, -⟩ := colors_keep_first_place_and_last_text
  have found := (read _ _).mpr ⟨_, written, rfl⟩
  have both := Made.merged (.collected [("red", "#f00")]) (.read written found)
  obtain ⟨-, inOrder, last, -⟩ := made _ _ both
  refine ⟨_, found, inOrder.trans rfl, (last "red" "#e00").mpr ?_⟩
  exact ⟨[("red", "#f00"), ("sky", "#08f")], [], rfl, by simp⟩

end UtilityCss.Palette
