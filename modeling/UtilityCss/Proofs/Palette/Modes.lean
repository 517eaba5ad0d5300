import UtilityCss.Proofs.OrderedMap
import UtilityCss.Proofs.Palette.Ramp

/-!
# The forms of a palette

All forms of a palette render one list of entries, whose names are distinct: a map loses nothing that
a text lists. Names are taken as they come; if a name holds a line feed, a line of the text is not a
line on the page.
-/
namespace UtilityCss.Palette

open UtilityCss.Color UtilityCss.Text

/-- The entry of a shade: its name behind the prefix, and its channels. -/
def paletteEntry (options : Options) (color : String) (shade : Step × Hsl Float32) :
    String × String :=
  (options.namePrefix ++ shadeName color shade.1, shadeText shade.2)

/-- The entries of a palette, color after color. -/
def paletteEntries (options : Options) : List (String × String) :=
  options.colors.toList.flatMap fun color =>
    (listedShades options.factors options.dark color.2).map (paletteEntry options color.1)

/-- A palette fails for the first color that has a fault. -/
theorem result_shades (options : Options) :
    (shades options).result =
      Logged.outcome (options.colors.toList.findSome? (rampFault? options.factors))
        (paletteEntries options) := by
  have listed := result_rampEach options.factors options.dark (paletteEntry options)
    options.colors.toList
  rw [shades, paletteEntries, List.flatMap_def]
  refine (Logged.result_bind _ _).trans ((congrArg (Except.bind · _) listed).trans ?_)
  exact Logged.bind_outcome _ _ List.flatten

theorem shades_ok_iff {options : Options} {entries : List (String × String)} :
    (shades options).result = .ok entries ↔
      (∀ color ∈ options.colors.toList, Readable options.factors color.2) ∧
        entries = paletteEntries options := by
  rw [result_shades, Logged.outcome_eq_ok_iff, findSome?_rampFault?_eq_none_iff]

theorem map_fst_paletteEntries {options : Options}
    (readable : ∀ color ∈ options.colors.toList, Readable options.factors color.2) :
    (paletteEntries options).map Prod.fst =
      shadeNames options.namePrefix options.dark options.colors.keys :=
  map_fst_rampEntries options.dark (fun _ _ => rfl) readable

theorem distinct_paletteEntries {options : Options}
    (readable : ∀ color ∈ options.colors.toList, Readable options.factors color.2) :
    ((paletteEntries options).map Prod.fst).Nodup := by
  rw [map_fst_paletteEntries readable]
  exact nodup_shadeNames _ _ options.colors.nodup_keys

/-- Every value of a palette lists the channels of a color. -/
theorem exists_components_of_mem {options : Options} {entry : String × String}
    (h : entry ∈ paletteEntries options) : ∃ c : Rgb, entry.2 = c.components := by
  obtain ⟨color, _, inside⟩ := List.mem_flatMap.mp h
  obtain ⟨shade, _, rfl⟩ := List.mem_map.mp inside
  exact ⟨hslToRgb shade.2, rfl⟩

/-- The texts that the names of a palette are made of: the prefix and the names of the colors. -/
def Options.nameParts (options : Options) : List String := options.namePrefix :: options.colors.keys

/-- Every name of a palette is that of a shade behind the prefix. -/
theorem exists_shadeName_of_mem {options : Options} {entry : String × String}
    (h : entry ∈ paletteEntries options) :
    ∃ color ∈ options.colors.keys, ∃ step, entry.1 = options.namePrefix ++ shadeName color step := by
  obtain ⟨color, known, inside⟩ := List.mem_flatMap.mp h
  obtain ⟨shade, _, rfl⟩ := List.mem_map.mp inside
  exact ⟨color.1, List.mem_map_of_mem known, shade.1, rfl⟩

/-- What neither the prefix nor a color brings in is in no name of the palette. -/
theorem notMem_name_of_mem {options : Options} {entry : String × String} {c : Char}
    (noHyphen : c ≠ '-') (noDigit : isDigit c = false)
    (clean : ∀ part ∈ options.nameParts, c ∉ part.toList) (h : entry ∈ paletteEntries options) :
    c ∉ entry.1.toList := by
  obtain ⟨color, known, step, named⟩ := exists_shadeName_of_mem h
  have front : c ∉ options.namePrefix.toList := clean _ List.mem_cons_self
  have shade : c ∉ (shadeName color step).toList :=
    notMem_shadeName noHyphen noDigit (clean color (List.mem_cons_of_mem _ known)) step
  rw [named, String.toList_append, List.mem_append, not_or]
  exact ⟨front, shade⟩

/-! ## Lines -/

theorem isDigit_of_mem_components {c : Rgb} {a : Char} (h : a ∈ c.components.toList) :
    isDigit a = true ∨ a = ' ' := by
  simp only [Rgb.components, String.toList_append, String.toList_ofList, List.mem_append] at h
  rcases h with (((h | h) | h) | h) | h
  · exact Or.inl (Decimal.isDigit_of_mem_digits h)
  · exact Or.inr (by simpa using h)
  · exact Or.inl (Decimal.isDigit_of_mem_digits h)
  · exact Or.inr (by simpa using h)
  · exact Or.inl (Decimal.isDigit_of_mem_digits h)

theorem notMem_components {c : Char} (noDigit : isDigit c = false) (noSpace : c ≠ ' ') (rgb : Rgb) :
    c ∉ rgb.components.toList := by
  intro inside
  rcases isDigit_of_mem_components inside with digit | space
  · rw [digit] at noDigit
    cases noDigit
  · exact noSpace space

theorem notMem_value_of_mem {options : Options} {entry : String × String} {c : Char}
    (noDigit : isDigit c = false) (noSpace : c ≠ ' ') (h : entry ∈ paletteEntries options) :
    c ∉ entry.2.toList := by
  obtain ⟨rgb, channels⟩ := exists_components_of_mem h
  rw [channels]
  exact notMem_components noDigit noSpace rgb

theorem components_ne_empty (rgb : Rgb) : rgb.components ≠ "" := by
  simp [Rgb.components]

/-- Channels start and end with a digit. -/
theorem trimmed_components {p : Char → Bool} (visible : ∀ c, isDigit c = true → p c = false)
    (rgb : Rgb) : Trimmed p rgb.components.toList := by
  have red := Decimal.digits_ne_nil rgb.red.toNat
  have blue := Decimal.digits_ne_nil rgb.blue.toNat
  have written : rgb.components.toList =
      Decimal.digits rgb.red.toNat ++ (' ' :: Decimal.digits rgb.green.toNat ++
        ' ' :: Decimal.digits rgb.blue.toNat) := by
    simp [Rgb.components]
  constructor
  · intro c first
    rw [written, List.head?_append_of_ne_nil _ red] at first
    exact visible c (Decimal.isDigit_of_mem_digits (List.mem_of_mem_head? first))
  · intro c last
    rw [written, List.getLast?_append_of_ne_nil _ (by simp), List.getLast?_append_of_ne_nil _ (by simp),
      List.getLast?_cons_of_ne_nil blue] at last
    exact visible c (Decimal.isDigit_of_mem_digits (List.mem_of_mem_getLast? last))

/-- The lines that declare the entries of a map as variables. -/
def declarationLines (values : OrderedMap String String) : List String :=
  values.toList.map fun (name, value) => "--" ++ name ++ ": " ++ value ++ ";"

/-- The class names that set the entries of a map, with underscores for spaces. -/
def classNames (values : OrderedMap String String) : List String :=
  values.toList.map fun (name, value) =>
    "[--" ++ name ++ "]-[" ++ value.map (fun c => if c = ' ' then '_' else c) ++ "]"

/-- The line declares the variable, with the channels of a color. -/
def Declares (line name : String) : Prop :=
  ∃ c : Rgb, line = "--" ++ name ++ ": " ++ c.components ++ ";"

/-- A line declares one variable only, because channels hold no colon. -/
theorem Declares.unique {line name other : String} (h : Declares line name)
    (h' : Declares line other) : name = other := by
  obtain ⟨c, rfl⟩ := h
  obtain ⟨d, same⟩ := h'
  have clean : ∀ c : Rgb, ':' ∉ ' ' :: c.components.toList ++ [';'] := by
    intro c inside
    have found : ':' ∈ c.components.toList := by simpa using inside
    exact notMem_components (by decide) (by decide) c found
  have cut : ("--" ++ name).toList ++ ':' :: (' ' :: c.components.toList ++ [';']) =
      ("--" ++ other).toList ++ ':' :: (' ' :: d.components.toList ++ [';']) := by
    simpa using congrArg String.toList same
  have front := (eq_of_append_separator (clean c) (clean d) cut).1
  exact (String.append_right_inj _).mp (String.toList_inj.mp front)

/-- Where all values are channels, the lines stand for the keys: a line declares the key at its place
and nothing else. -/
theorem exists_declares_iff {values : OrderedMap String String}
    (channels : ∀ entry ∈ values.toList, ∃ c : Rgb, entry.2 = c.components)
    (i : Nat) (name : String) :
    (∃ line, (declarationLines values)[i]? = some line ∧ Declares line name) ↔
      values.keys[i]? = some name := by
  simp only [declarationLines, OrderedMap.keys, List.getElem?_map, Option.map_eq_some_iff]
  constructor
  · rintro ⟨line, ⟨entry, at_i, rfl⟩, declares⟩
    obtain ⟨c, hc⟩ := channels entry (List.mem_of_getElem? at_i)
    exact ⟨entry, at_i, Declares.unique ⟨c, by rw [hc]⟩ declares⟩
  · rintro ⟨entry, at_i, rfl⟩
    obtain ⟨c, hc⟩ := channels entry (List.mem_of_getElem? at_i)
    exact ⟨_, ⟨entry, at_i, rfl⟩, c, by rw [hc]⟩

theorem existsUnique_getElem? {α : Type} {xs : List α} (distinct : xs.Nodup) {a : α} (h : a ∈ xs) :
    ∃! i : Nat, xs[i]? = some a := by
  obtain ⟨i, at_i⟩ := List.mem_iff_getElem?.mp h
  refine ⟨i, at_i, fun j at_j => ?_⟩
  have inside : j < xs.length := (List.getElem?_eq_some_iff.mp at_j).1
  exact (List.getElem?_inj inside distinct).mp (at_j.trans at_i.symm)

/-! ## Entries under distinct names -/

/-- What the forms of some entries show under a name: the channels in the map of values and in the only line
that declares the name, a class name that sets them, and in the map of references the variable. -/
def Shows (entries : List (String × String)) (name : String) (c : Rgb) : Prop :=
  ∃ values references : OrderedMap String String,
    OutputMode.present .valueAlias entries = .map values ∧
    OutputMode.present .reference entries = .map references ∧
    OutputMode.present .cssVariables entries =
      .text ("\n".intercalate (declarationLines values)) ∧
    OutputMode.present .classString entries = .text (" ".intercalate (classNames values)) ∧
    values.get? name = some c.components ∧
    references.get? name = some ("var(--" ++ name ++ ")") ∧
    (∀ line, line ∈ declarationLines values ∧ Declares line name ↔
      line = "--" ++ name ++ ": " ++ c.components ++ ";") ∧
    "[--" ++ name ++ "]-[" ++ c.components.map (fun a => if a = ' ' then '_' else a) ++ "]" ∈
      classNames values

section
variable {entries : List (String × String)}

theorem present_cssVariables (distinct : (entries.map Prod.fst).Nodup) :
    OutputMode.present .cssVariables entries =
      .text ("\n".intercalate (declarationLines (.ofList entries))) := by
  rw [declarationLines, OrderedMap.toList_ofList_of_distinct distinct]
  rfl

theorem present_classString (distinct : (entries.map Prod.fst).Nodup) :
    OutputMode.present .classString entries =
      .text (" ".intercalate (classNames (.ofList entries))) := by
  rw [classNames, OrderedMap.toList_ofList_of_distinct distinct]
  simp [OutputMode.present, classFragment, String.map_eq_internal]

/-- Referring to the entries keeps their names. -/
theorem toList_references (distinct : (entries.map Prod.fst).Nodup) :
    (OrderedMap.ofList (entries.map fun (name, _) => (name, variableReference name))).toList =
      entries.map fun (name, _) => (name, variableReference name) := by
  refine OrderedMap.toList_ofList_of_distinct ?_
  rw [List.map_map]
  exact distinct

/-- Where all values are channels, a line that declares a listed name is the one of its entry. -/
theorem mem_declarationLines_and_declares_iff {values : OrderedMap String String}
    (channels : ∀ entry ∈ values.toList, ∃ c : Rgb, entry.2 = c.components) {name : String} {c : Rgb}
    (listed : (name, c.components) ∈ values.toList) (line : String) :
    line ∈ declarationLines values ∧ Declares line name ↔
      line = "--" ++ name ++ ": " ++ c.components ++ ";" := by
  constructor
  · rintro ⟨inside, declares⟩
    obtain ⟨⟨other, value⟩, listed', rfl⟩ := List.mem_map.mp inside
    obtain ⟨d, rfl⟩ := channels _ listed'
    have named : other = name := Declares.unique ⟨d, rfl⟩ declares
    obtain ⟨rfl, written⟩ :=
      Prod.mk.inj (List.inj_on_of_nodup_map values.distinct listed' listed named)
    rw [written]
  · rintro rfl
    exact ⟨List.mem_map.mpr ⟨(name, c.components), listed, rfl⟩, c, rfl⟩

/-- Every form shows an entry, if all values are channels. -/
theorem shows_of_mem (distinct : (entries.map Prod.fst).Nodup)
    (channels : ∀ entry ∈ entries, ∃ c : Rgb, entry.2 = c.components) {name : String} {c : Rgb}
    (listed : (name, c.components) ∈ entries) : Shows entries name c := by
  have all := OrderedMap.toList_ofList_of_distinct distinct
  refine ⟨.ofList entries, _, rfl, rfl, present_cssVariables distinct, present_classString distinct,
    ?value, ?reference, ?line, ?className⟩
  case value =>
    rw [OrderedMap.get?_eq_some_iff, all]
    exact listed
  case reference =>
    rw [OrderedMap.get?_eq_some_iff, toList_references distinct]
    exact List.mem_map.mpr ⟨(name, c.components), listed, rfl⟩
  case line =>
    rw [← all] at channels listed
    exact mem_declarationLines_and_declares_iff channels listed
  case className =>
    rw [classNames, all]
    exact List.mem_map.mpr ⟨(name, c.components), listed, rfl⟩

end

/-! ## The map of a palette -/

/-- The palette as a map from names to values. -/
def paletteMap (options : Options) : OrderedMap String String := .ofList (paletteEntries options)

section
variable {options : Options}

theorem toList_paletteMap
    (readable : ∀ color ∈ options.colors.toList, Readable options.factors color.2) :
    (paletteMap options).toList = paletteEntries options :=
  OrderedMap.toList_ofList_of_distinct (distinct_paletteEntries readable)

theorem keys_paletteMap
    (readable : ∀ color ∈ options.colors.toList, Readable options.factors color.2) :
    (paletteMap options).keys =
      shadeNames options.namePrefix options.dark options.colors.keys := by
  rw [OrderedMap.keys, toList_paletteMap readable, map_fst_paletteEntries readable]

/-- A palette has eleven entries for each color. -/
theorem size_paletteMap
    (readable : ∀ color ∈ options.colors.toList, Readable options.factors color.2) :
    (paletteMap options).size = 11 * options.colors.size := by
  have count := congrArg List.length (keys_paletteMap readable)
  rw [length_shadeNames] at count
  simpa [OrderedMap.size, OrderedMap.keys] using count

/-- Each variable of a palette is declared by exactly one line. -/
theorem existsUnique_declaration
    (readable : ∀ color ∈ options.colors.toList, Readable options.factors color.2) {name : String}
    (known : name ∈ (paletteMap options).keys) :
    ∃! i : Nat, ∃ line, (declarationLines (paletteMap options))[i]? = some line ∧
      Declares line name := by
  have channels : ∀ entry ∈ (paletteMap options).toList, ∃ c : Rgb, entry.2 = c.components := by
    rw [toList_paletteMap readable]
    exact fun entry => exists_components_of_mem
  simp only [exists_declares_iff channels]
  exact existsUnique_getElem? (OrderedMap.nodup_keys _) known

end

/-! ## The four forms -/

theorem result_generate (mode : OutputMode) (options : Options) :
    (generate mode options).result = (shades options).result.map mode.present := by
  rw [generate, Logged.result_bind]
  cases (shades options).result with
  | ok entries => rfl
  | error e => rfl

/-- A palette is made exactly of colors that can be read. -/
theorem generate_ok_iff {mode : OutputMode} {options : Options} {palette : Output} :
    (generate mode options).result = .ok palette ↔
      (∀ color ∈ options.colors.toList, Readable options.factors color.2) ∧
        palette = mode.present (paletteEntries options) := by
  rw [result_generate]
  constructor
  · intro made
    cases outcome : (shades options).result with
    | error e =>
      rw [outcome] at made
      cases made
    | ok entries =>
      obtain ⟨readable, rfl⟩ := shades_ok_iff.mp outcome
      rw [outcome] at made
      exact ⟨readable, (Except.ok.inj made).symm⟩
  · rintro ⟨readable, rfl⟩
    rw [shades_ok_iff.mpr ⟨readable, rfl⟩]
    rfl

theorem readable_of_made {mode : OutputMode} {options : Options} {palette : Output}
    (made : (generate mode options).result = .ok palette) :
    ∀ color ∈ options.colors.toList, Readable options.factors color.2 :=
  (generate_ok_iff.mp made).1

/-- A palette whose colors can be read is made in every form. -/
theorem result_generate_eq_present {options : Options} (mode : OutputMode)
    (readable : ∀ color ∈ options.colors.toList, Readable options.factors color.2) :
    (generate mode options).result = .ok (mode.present (paletteEntries options)) :=
  generate_ok_iff.mpr ⟨readable, rfl⟩

/-! ## The values of a form -/

/-- The value that a form gives a shade: its channels, with underscores in class names, or a reference to
the variable of its name. -/
def OutputMode.valueOf (mode : OutputMode) (name channels : String) : String :=
  match mode with
  | .classString => channels.map fun c => if c = ' ' then '_' else c
  | .cssVariables => channels
  | .valueAlias => channels
  | .reference => "var(--" ++ name ++ ")"

/-- Writes names with the values that are given to them. -/
def OutputMode.write (mode : OutputMode) (given : OrderedMap String String) : Output :=
  match mode with
  | .classString =>
    .text (" ".intercalate (given.toList.map fun (name, value) =>
      "[--" ++ name ++ "]-[" ++ value ++ "]"))
  | .cssVariables => .text ("\n".intercalate (declarationLines given))
  | .valueAlias => .map given
  | .reference => .map given

/-- The values that a form gives to the shades of a palette. -/
def givenValues (mode : OutputMode) (options : Options) : OrderedMap String String :=
  .ofList ((paletteEntries options).map fun (name, channels) => (name, mode.valueOf name channels))

/-- Only references depend on the name. -/
theorem OutputMode.valueOf_eq {mode : OutputMode} (shown : mode ≠ .reference)
    (name other channels : String) : mode.valueOf name channels = mode.valueOf other channels := by
  cases mode with
  | classString => rfl
  | cssVariables => rfl
  | valueAlias => rfl
  | reference => exact absurd rfl shown

section
variable {options : Options}

theorem toList_givenValues (mode : OutputMode)
    (readable : ∀ color ∈ options.colors.toList, Readable options.factors color.2) :
    (givenValues mode options).toList =
      (paletteEntries options).map fun (name, channels) => (name, mode.valueOf name channels) := by
  refine OrderedMap.toList_ofList_of_distinct ?_
  rw [List.map_map]
  exact distinct_paletteEntries readable

theorem keys_givenValues (mode : OutputMode)
    (readable : ∀ color ∈ options.colors.toList, Readable options.factors color.2) :
    (givenValues mode options).keys =
      shadeNames options.namePrefix options.dark options.colors.keys := by
  rw [OrderedMap.keys, toList_givenValues mode readable, List.map_map]
  exact map_fst_paletteEntries readable

/-- Every form gives a shade what it makes of the channels of a color. -/
theorem exists_components_of_mem_givenValues {mode : OutputMode}
    (readable : ∀ color ∈ options.colors.toList, Readable options.factors color.2)
    {entry : String × String} (inside : entry ∈ (givenValues mode options).toList) :
    ∃ c : Rgb, entry.2 = mode.valueOf entry.1 c.components := by
  rw [toList_givenValues mode readable] at inside
  obtain ⟨⟨name, channels⟩, listed, rfl⟩ := List.mem_map.mp inside
  obtain ⟨c, written⟩ := exists_components_of_mem listed
  exact ⟨c, congrArg (mode.valueOf name) written⟩

/-- A palette whose colors can be read is written. -/
theorem result_generate_of_readable (mode : OutputMode)
    (readable : ∀ color ∈ options.colors.toList, Readable options.factors color.2) :
    (generate mode options).result = .ok (mode.write (givenValues mode options)) := by
  have distinct := distinct_paletteEntries readable
  have listed := toList_givenValues mode readable
  rw [result_generate_eq_present mode readable]
  cases mode with
  | classString =>
    rw [present_classString distinct, classNames, OrderedMap.toList_ofList_of_distinct distinct,
      OutputMode.write, listed, List.map_map]
    rfl
  | cssVariables =>
    rw [present_cssVariables distinct, declarationLines,
      OrderedMap.toList_ofList_of_distinct distinct, OutputMode.write, declarationLines, listed,
      List.map_map]
    rfl
  | valueAlias =>
    have same : (paletteEntries options).map
        (fun (name, channels) => (name, OutputMode.valueAlias.valueOf name channels)) =
          paletteEntries options := List.map_id _
    rw [OutputMode.write, givenValues, same]
    rfl
  | reference => rfl

/-- Each shade of a ramp is given to the name of its step. -/
theorem get?_givenValues (mode : OutputMode)
    (readable : ∀ color ∈ options.colors.toList, Readable options.factors color.2)
    {color hex : String} (known : (color, hex) ∈ options.colors.toList) {step : Step}
    {hsl : Hsl Float32} (listed : (step, hsl) ∈ listedShades options.factors options.dark hex) :
    (givenValues mode options).get? (options.namePrefix ++ shadeName color step) =
      some (mode.valueOf (options.namePrefix ++ shadeName color step) (shadeText hsl)) := by
  rw [OrderedMap.get?_eq_some_iff, toList_givenValues mode readable]
  have entry : paletteEntry options color (step, hsl) ∈ paletteEntries options :=
    List.mem_flatMap.mpr ⟨(color, hex), known, List.mem_map.mpr ⟨(step, hsl), listed, rfl⟩⟩
  exact List.mem_map.mpr ⟨paletteEntry options color (step, hsl), entry, rfl⟩

end

/-! ## One map for all forms -/

/-- All four forms fail with one error, or all render the entries of one map: eleven for each color,
named by color and step. Each variable that is referred to is declared by exactly one line. -/
theorem generate_renders_one_map (options : Options) :
    (∃ e, ∀ mode, (generate mode options).result = .error e) ∨
    ∃ values references : OrderedMap String String,
      (generate .valueAlias options).result = .ok (.map values) ∧
      (generate .reference options).result = .ok (.map references) ∧
      (generate .cssVariables options).result =
        .ok (.text ("\n".intercalate (declarationLines values))) ∧
      (generate .classString options).result =
        .ok (.text (" ".intercalate (classNames values))) ∧
      values.size = 11 * options.colors.size ∧
      values.keys = shadeNames options.namePrefix options.dark options.colors.keys ∧
      values.keys.Nodup ∧
      references.toList = values.toList.map (fun (name, _) => (name, "var(--" ++ name ++ ")")) ∧
      ∀ name ∈ references.keys,
        ∃! i : Nat, ∃ line, (declarationLines values)[i]? = some line ∧ Declares line name := by
  cases outcome : (shades options).result with
  | error e =>
    left
    refine ⟨e, fun mode => ?_⟩
    rw [result_generate, outcome]
    rfl
  | ok entries =>
    right
    obtain ⟨readable, rfl⟩ := shades_ok_iff.mp outcome
    have result (mode : OutputMode) := result_generate_eq_present mode readable
    have listed := toList_paletteMap readable
    have distinct := distinct_paletteEntries readable
    have referred := toList_references distinct
    refine ⟨paletteMap options, _, result .valueAlias, result .reference, ?_, ?_,
      size_paletteMap readable, keys_paletteMap readable, OrderedMap.nodup_keys _, ?_, ?_⟩
    · rw [result, present_cssVariables distinct, paletteMap]
    · rw [result, present_classString distinct, paletteMap]
    · rw [referred, listed]
      rfl
    · intro name hname
      rw [OrderedMap.keys, referred, List.map_map] at hname
      refine existsUnique_declaration readable ?_
      rw [OrderedMap.keys, listed]
      exact hname

end UtilityCss.Palette
