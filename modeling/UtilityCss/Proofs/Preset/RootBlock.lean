import UtilityCss.Preset.RootBlock
import UtilityCss.Proofs.Palette.Modes

/-!
# The lines of the root block

The root block is a list of lines: the opening, the variables, the lines of the further text that are
not blank, and the closing. A line without blanks at its ends is kept as it is, so a palette that is
handed over as text stands in the block line by line. Names may start or end with blanks or be empty, but
a line feed in a name would end its line.
-/
namespace UtilityCss.Preset

open UtilityCss.Palette UtilityCss.Color UtilityCss.Text

/-- A line that the block keeps as it stands. -/
structure KeptLine (line : String) : Prop where
  oneLine : '\n' ∉ line.toList
  trimmed : Trimmed isBlank line.toList
  present : line ≠ ""

/-- No line of this kind is lost, merged or altered when their text is cut into lines again. -/
theorem trimmedLines_of_kept {lines : List String} (kept : ∀ line ∈ lines, KeptLine line) :
    trimmedLines ("\n".intercalate lines) = lines := by
  by_cases empty : lines = []
  · rw [empty]
    rfl
  · have same : ∀ line ∈ lines, (if (trim isBlank line.toList).isEmpty then none
        else some (String.ofList (trim isBlank line.toList))) = some line := by
      intro line inside
      obtain ⟨-, trimmed, present⟩ := kept line inside
      simp [trim_eq_self trimmed, present]
    rw [trimmedLines, splitOn_joined rfl (fun line inside => (kept line inside).oneLine) empty,
      List.map_map, List.filterMap_map]
    exact (List.filterMap_congr same).trans List.filterMap_some

/-- Ending each line but the last is the same as joining all of them. -/
theorem intercalate_concat {α : Type} (separator : α) (lines : List (List α)) (last : List α) :
    [separator].intercalate (lines ++ [last]) = lines.flatMap (· ++ [separator]) ++ last := by
  induction lines with
  | nil => simp
  | cons line rest ih =>
    have more : rest ++ [last] ≠ [] := by simp
    obtain ⟨next, others, shape⟩ := List.exists_cons_of_ne_nil more
    rw [List.cons_append, shape, List.intercalate_cons_cons, ← shape, ih, List.flatMap_cons]
    simp only [List.append_assoc]

theorem rootCss_eq_intercalate (entries : List (String × String)) (extra : Option String) :
    rootCss entries extra =
      "\n".intercalate (":root \x7b" :: (rootLines entries extra).map ("  " ++ ·) ++ ["\x7d"]) := by
  rw [← String.toList_inj, String.toList_intercalate, List.map_append]
  refine Eq.trans ?_ (intercalate_concat '\n' _ _).symm
  simp [rootCss, String.toList_join, List.flatMap_map]

/-! ## Palettes -/

theorem keptLine_of_mem {options : Options}
    (oneLine : ∀ part ∈ options.nameParts, '\n' ∉ part.toList) {entry : String × String}
    (h : entry ∈ paletteEntries options) : KeptLine (variableLine entry.1 entry.2) where
  oneLine := by
    have name := notMem_name_of_mem (by decide) (by decide) oneLine h
    have value := @notMem_value_of_mem _ _ '\n' (by decide) (by decide) h
    simp [variableLine, name, value]
  trimmed := by
    have written : (variableLine entry.1 entry.2).toList =
        '-' :: ('-' :: entry.1.toList ++ ':' :: ' ' :: entry.2.toList ++ [';']) := by
      simp [variableLine]
    rw [written]
    exact trimmed_of_ends (by decide) (by decide) _
  present := by simp [variableLine]

/-- A palette whose names stay on their lines stands in the root block behind the variables, one line
for each shade in the order of the palette, and nothing else does. Without colors it adds no line. -/
theorem root_block_lists_palette {options : Options} {palette : Output}
    (made : (generate .cssVariables options).result = .ok palette)
    (oneLine : ∀ part ∈ options.nameParts, '\n' ∉ part.toList)
    (entries : List (String × String)) :
    ∃ text values, palette = .text text ∧
      (generate .valueAlias options).result = .ok (.map values) ∧
      values.keys = shadeNames options.namePrefix options.dark options.colors.keys ∧
      (∀ line ∈ declarationLines values, '\n' ∉ line.toList) ∧
      rootCss entries (some text) =
        "\n".intercalate (":root \x7b" ::
          (entries.map (fun (name, value) => name ++ ": " ++ value ++ ";") ++
            declarationLines values).map ("  " ++ ·) ++ ["\x7d"]) ∧
      (options.colors.keys = [] → rootCss entries (some text) = rootCss entries none) := by
  have readable := readable_of_made made
  have listed := toList_paletteMap readable
  have kept : ∀ line ∈ declarationLines (paletteMap options), KeptLine line := by
    intro line hline
    rw [declarationLines, listed] at hline
    obtain ⟨entry, inside, rfl⟩ := List.mem_map.mp hline
    exact keptLine_of_mem oneLine inside
  have written : (generate .cssVariables options).result =
      .ok (.text ("\n".intercalate (declarationLines (paletteMap options)))) := by
    rw [result_generate_eq_present .cssVariables readable, declarationLines, listed]
    rfl
  refine ⟨"\n".intercalate (declarationLines (paletteMap options)), paletteMap options,
    Except.ok.inj (made.symm.trans written), result_generate_eq_present .valueAlias readable,
    keys_paletteMap readable, fun line inside => (kept line inside).oneLine, ?lines, ?empty⟩
  case lines =>
    rw [rootCss_eq_intercalate, rootLines, Option.getD_some, trimmedLines_of_kept kept]
  case empty =>
    intro noColors
    have keys := keys_paletteMap readable
    rw [noColors] at keys
    have nothing : declarationLines (paletteMap options) = [] := by
      rw [declarationLines, List.map_eq_nil_iff]
      exact List.map_eq_nil_iff.mp keys
    rw [nothing]
    rfl

/-- Names with blanks at their ends, and an empty one. -/
def blankNamed : Options where
  colors := .ofList [("\r a \r", "#fff"), ("", "#102030")]
  dark := true

theorem root_block_lists_blank_names :
    ∃ palette text values,
      (generate .cssVariables blankNamed).result = .ok palette ∧ palette = .text text ∧
      (∀ part ∈ blankNamed.nameParts, '\n' ∉ part.toList) ∧
      (generate .valueAlias blankNamed).result = .ok (.map values) ∧
      values.keys = shadeNames "" true ["\r a \r", ""] ∧
      rootCss [("--a", "1")] (some text) =
        "\n".intercalate (":root \x7b" :: (["--a: 1;"] ++ declarationLines values).map ("  " ++ ·) ++
          ["\x7d"]) := by
  have listed : blankNamed.colors.toList = [("\r a \r", "#fff"), ("", "#102030")] := by decide
  have readable : ∀ color ∈ blankNamed.colors.toList, Readable blankNamed.factors color.2 := by
    rw [listed, List.forall_mem_cons, List.forall_mem_singleton]
    exact ⟨⟨by decide +kernel, by decide +kernel⟩, ⟨by decide +kernel, by decide +kernel⟩⟩
  have parts : blankNamed.nameParts = ["", "\r a \r", ""] := by decide
  have oneLine : ∀ part ∈ blankNamed.nameParts, '\n' ∉ part.toList := by
    rw [parts]
    decide
  have made := result_generate_eq_present .cssVariables readable
  obtain ⟨text, values, same, aliased, keys, -, block, -⟩ :=
    root_block_lists_palette made oneLine [("--a", "1")]
  have names : blankNamed.colors.keys = ["\r a \r", ""] := by decide
  rw [names] at keys
  exact ⟨_, text, values, made, same, oneLine, aliased, keys, block⟩

end UtilityCss.Preset
