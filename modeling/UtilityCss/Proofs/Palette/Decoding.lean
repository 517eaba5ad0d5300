import UtilityCss.Proofs.Palette.Modes
import UtilityCss.Proofs.Utility.Declaration

/-!
# Palette texts are decoded

Both texts of a palette hold its names and values. The variables are read as declarations if no name
holds a semicolon or a colon. The class names are cut at spaces if no name holds a space; each is then
taken apart at its last inner brackets, because values hold none, so that brackets, hyphens and
underscores in names do no harm. Names that hold what a text is cut at are not decoded.
-/
namespace UtilityCss.Palette

open UtilityCss.Color UtilityCss.Text UtilityCss.Utility

/-- Takes a class name apart at the last inner brackets: a name behind the opening, and a value in which
an underscore stands for a space. -/
def decodeFragment? (fragment : List Char) : Option (String × String) := do
  let (front, back) ← cutLast? [']', '-', '['] fragment
  let name ← ['[', '-', '-'].isPrefixOf? front
  let value ← [']'].isSuffixOf? back
  return (String.ofList name, String.ofList (value.map fun c => if c == '_' then ' ' else c))

/-- A shade as the declaration of a variable. -/
def variableDeclaration (entry : String × String) : Declaration := ⟨"--" ++ entry.1, entry.2⟩

/-! ## Class names -/

/-- A value as class names hold it. -/
def underscored (value : String) : List Char := value.toList.map fun c => if c == ' ' then '_' else c

theorem toList_classFragment (name value : String) :
    (classFragment name value).toList =
      '[' :: '-' :: '-' :: name.toList ++ ([']', '-', '['] ++ (underscored value ++ [']'])) := by
  simp [classFragment, underscored]

/-- Only underscores come in for the spaces. -/
theorem mem_underscored {value : String} {c : Char} (h : c ∈ underscored value) :
    c = '_' ∨ c ≠ ' ' ∧ c ∈ value.toList := by
  obtain ⟨d, hd, same⟩ := List.mem_map.mp h
  split at same
  · exact Or.inl same.symm
  · next other =>
    subst same
    exact Or.inr ⟨by simpa using other, hd⟩

theorem map_underscored {value : String} (noUnderscore : '_' ∉ value.toList) :
    (underscored value).map (fun c => if c == '_' then ' ' else c) = value.toList := by
  rw [underscored, List.map_map]
  refine Eq.trans (List.map_congr_left fun c hc => ?_) (List.map_id _)
  have other : c ≠ '_' := by
    rintro rfl
    exact noUnderscore hc
  by_cases space : c = ' '
  · simp [space]
  · simp [space, other]

/-- Inner brackets do not begin in a text whose only closing bracket is its last character. -/
theorem innerBrackets_absent {body : List Char} (clean : ']' ∉ body) :
    ¬ [']', '-', '['] <:+: body ++ [']'] := by
  rw [List.infix_concat_iff]
  rintro (atEnd | inside)
  · obtain ⟨front, same⟩ := atEnd
    have last := congrArg List.getLast? same
    simp at last
  · exact clean (inside.subset List.mem_cons_self)

/-- A class name is taken apart into the name and the value that it was made of. -/
theorem decodeFragment?_classFragment {name value : String} (noBracket : ']' ∉ value.toList)
    (noUnderscore : '_' ∉ value.toList) :
    decodeFragment? (classFragment name value).toList = some (name, value) := by
  have closed : ']' ∉ '-' :: '[' :: underscored value := by
    rw [List.mem_cons, List.mem_cons, not_or, not_or]
    refine ⟨by decide, by decide, fun inside => ?_⟩
    rcases mem_underscored inside with same | ⟨-, inside⟩
    · exact absurd same (by decide)
    · exact noBracket inside
  have cut : cutLast? [']', '-', '['] (classFragment name value).toList =
      some ('[' :: '-' :: '-' :: name.toList, underscored value ++ [']']) := by
    rw [toList_classFragment]
    exact cutLast?_append (@innerBrackets_absent ('-' :: '[' :: underscored value) closed) _
  have opened : ['[', '-', '-'].isPrefixOf? ('[' :: '-' :: '-' :: name.toList) = some name.toList :=
    List.isPrefixOf?_eq_some_iff_append_eq.mpr rfl
  have ended : [']'].isSuffixOf? (underscored value ++ [']']) = some (underscored value) :=
    List.isSuffixOf?_eq_some_iff_append_eq.mpr rfl
  rw [decodeFragment?, cut]
  simp only [Option.bind_eq_bind, Option.bind_some, opened, ended, map_underscored noUnderscore,
    String.ofList_toList]
  rfl

section
variable {options : Options} {entry : String × String}

theorem space_notMem_classFragment {name : String} (clean : ' ' ∉ name.toList) (value : String) :
    ' ' ∉ (classFragment name value).toList := by
  have shown : ' ' ∉ underscored value := by
    intro inside
    rcases mem_underscored inside with same | ⟨other, -⟩
    · exact absurd same (by decide)
    · exact other rfl
  simp [toList_classFragment, clean, shown]

/-- A class name is never empty, so the text is empty for a palette without colors alone. -/
theorem classText_eq_empty_iff {entries : List (String × String)} :
    " ".intercalate (entries.map fun (name, value) => classFragment name value) = "" ↔
      entries = [] := by
  constructor
  · intro empty
    cases entries with
    | nil => rfl
    | cons entry rest =>
      have chars := congrArg String.toList empty
      rw [String.toList_intercalate] at chars
      cases rest <;> simp [toList_classFragment] at chars
  · rintro rfl
    rfl

/-- The class names are the parts between the spaces. -/
theorem map_decode_classNames (filled : paletteEntries options ≠ [])
    (clean : ∀ part ∈ options.nameParts, ' ' ∉ part.toList) :
    ((" ".intercalate ((paletteEntries options).map fun (name, value) =>
        classFragment name value)).toList.splitOn ' ').map decodeFragment? =
      (paletteEntries options).map some := by
  have whole : ∀ fragment ∈ (paletteEntries options).map (fun (name, value) =>
      classFragment name value), ' ' ∉ fragment.toList := by
    intro fragment hfragment
    obtain ⟨entry, inside, rfl⟩ := List.mem_map.mp hfragment
    exact space_notMem_classFragment (notMem_name_of_mem (by decide) (by decide) clean inside) _
  rw [splitOn_joined rfl whole (by simpa using filled), List.map_map, List.map_map]
  refine List.map_congr_left fun entry inside => ?_
  exact decodeFragment?_classFragment (notMem_value_of_mem (by decide) (by decide) inside)
    (notMem_value_of_mem (by decide) (by decide) inside)

/-! ## Variables -/

theorem printable_variableDeclaration
    (clean : ∀ part ∈ options.nameParts, ';' ∉ part.toList ∧ ':' ∉ part.toList)
    (h : entry ∈ paletteEntries options) : (variableDeclaration entry).Printable where
  named := by simp [variableDeclaration]
  trimmed := by
    obtain ⟨color, -, step, named⟩ := exists_shadeName_of_mem h
    have written : (variableDeclaration entry).property.toList =
        '-' :: '-' :: (options.namePrefix.toList ++ (shadeName color step).toList) := by
      simp [variableDeclaration, named]
    rw [written]
    constructor
    · simp [isCssBlank]
    · simp [isCssBlank, List.getLast?_cons, List.getLast?_append, getLast?_shadeName]
  oneName := by
    have name := notMem_name_of_mem (by decide) (by decide) (fun part hp => (clean part hp).2) h
    simpa [variableDeclaration] using name
  oneItem := by
    have name := notMem_name_of_mem (by decide) (by decide) (fun part hp => (clean part hp).1) h
    have value := @notMem_value_of_mem _ _ ';' (by decide) (by decide) h
    simp [variableDeclaration, Declaration.text, name, value]

theorem readBack?_variableDeclaration (h : entry ∈ paletteEntries options) :
    (variableDeclaration entry).readBack? = some (variableDeclaration entry) := by
  obtain ⟨rgb, channels⟩ := exists_components_of_mem h
  have trimmed : Trimmed isCssBlank entry.2.toList :=
    channels ▸ trimmed_components (fun _ => isCssBlank_of_isDigit) rgb
  have present : entry.2 ≠ "" := channels ▸ components_ne_empty rgb
  exact Declaration.readBack?_eq_self present trimmed

/-- The lines of the variables are read as declarations, in order. -/
theorem parse_variableLines
    (clean : ∀ part ∈ options.nameParts, ';' ∉ part.toList ∧ ':' ∉ part.toList) :
    parseDeclarations ("\n".intercalate ((paletteEntries options).map fun (name, value) =>
        variableLine name value)) = (paletteEntries options).map variableDeclaration := by
  have lines : (paletteEntries options).map (fun (name, value) => variableLine name value) =
      ((paletteEntries options).map variableDeclaration).map fun d => d.text ++ ";" := by
    rw [List.map_map]
    rfl
  have printable : ∀ d ∈ (paletteEntries options).map variableDeclaration, d.Printable := by
    intro d hd
    obtain ⟨entry, inside, rfl⟩ := List.mem_map.mp hd
    exact printable_variableDeclaration clean inside
  rw [lines, parse_lines printable, List.filterMap_map]
  exact (List.filterMap_congr fun entry => readBack?_variableDeclaration).trans
    (congrFun List.filterMap_eq_map' _)

end

/-! ## Both texts -/

/-- Where a palette is made, both of its texts are decoded to the names and values of the map, in order:
the variables by reading declarations, the class names by taking apart what stands between the spaces,
one part for each entry. A text without class names is that of a palette without colors. -/
theorem palette_texts_are_decoded {mode : OutputMode} {options : Options} {palette : Output}
    (made : (generate mode options).result = .ok palette) :
    ∃ values sheet classes,
      (generate .valueAlias options).result = .ok (.map values) ∧
      (generate .cssVariables options).result = .ok (.text sheet) ∧
      (generate .classString options).result = .ok (.text classes) ∧
      ((∀ part ∈ options.nameParts, ';' ∉ part.toList ∧ ':' ∉ part.toList) →
        parseDeclarations sheet = values.toList.map variableDeclaration) ∧
      ((∀ part ∈ options.nameParts, ' ' ∉ part.toList) → classes ≠ "" →
        (classes.toList.splitOn ' ').map decodeFragment? = values.toList.map some) ∧
      (classes = "" ↔ options.colors.keys = []) := by
  have readable := readable_of_made made
  have result (mode : OutputMode) := result_generate_eq_present mode readable
  have listed := toList_paletteMap readable
  refine ⟨paletteMap options, _, _, result .valueAlias, result .cssVariables, result .classString,
    ?sheet, ?classes, ?empty⟩
  case sheet =>
    intro clean
    rw [listed]
    exact parse_variableLines clean
  case classes =>
    intro clean filled
    rw [listed]
    exact map_decode_classNames (fun empty => filled (classText_eq_empty_iff.mpr empty)) clean
  case empty =>
    have size := size_paletteMap readable
    rw [OrderedMap.size, OrderedMap.size] at size
    rw [classText_eq_empty_iff, ← listed, OrderedMap.keys, List.map_eq_nil_iff,
      ← List.length_eq_zero_iff, ← List.length_eq_zero_iff]
    omega

/-- Names full of brackets, hyphens and underscores, one with a line feed and one empty. -/
def bracketed : Options where
  colors := .ofList [("a_]-[b\n", "#fff"), ("", "#102030")]
  namePrefix := "[--_]-["

theorem bracketed_texts_are_decoded :
    ∃ palette values sheet classes,
      (generate .reference bracketed).result = .ok palette ∧
      (generate .valueAlias bracketed).result = .ok (.map values) ∧
      (generate .cssVariables bracketed).result = .ok (.text sheet) ∧
      (generate .classString bracketed).result = .ok (.text classes) ∧
      parseDeclarations sheet = values.toList.map variableDeclaration ∧
      (classes.toList.splitOn ' ').map decodeFragment? = values.toList.map some ∧ classes ≠ "" := by
  have listed : bracketed.colors.toList = [("a_]-[b\n", "#fff"), ("", "#102030")] := by decide
  have readable : ∀ color ∈ bracketed.colors.toList, Readable bracketed.factors color.2 := by
    rw [listed, List.forall_mem_cons, List.forall_mem_singleton]
    exact ⟨⟨by decide +kernel, by decide +kernel⟩, ⟨by decide +kernel, by decide +kernel⟩⟩
  have parts : bracketed.nameParts = ["[--_]-[", "a_]-[b\n", ""] := by decide
  have made := result_generate_eq_present .reference readable
  obtain ⟨values, sheet, classes, aliased, declared, classed, read, decoded, empty⟩ :=
    palette_texts_are_decoded made
  have filled : classes ≠ "" := by
    rw [ne_eq, empty]
    decide
  refine ⟨_, values, sheet, classes, made, aliased, declared, classed, read ?_, decoded ?_ filled,
    filled⟩
  · rw [parts]
    decide
  · rw [parts]
    decide

end UtilityCss.Palette
