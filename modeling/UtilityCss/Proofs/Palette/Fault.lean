import UtilityCss.Proofs.Palette.Modes

/-!
# Why no palette is made, and what is said about it

A palette of no colors is always made. Otherwise the factors are looked at first, and then the colors in
their order, up to the first that cannot be read. Each color that is read is reported, so the messages tell
how far the work went. The form of the palette, its direction and its prefix have no part in this. Messages
of a finer level than debugging are not modelled.
-/
namespace UtilityCss.Palette

open UtilityCss.Color

/-- The factors may divide: they are finite and positive. -/
def Factors.Usable (factors : Factors Float32) : Prop :=
  ∀ factor ∈ factors.toList, factor.isFinite = true ∧ 0 < factor

/-- Factors refuse the colors with an error: the factors themselves are at fault, or else the first color
that cannot be read. -/
inductive Refuses (factors : Factors Float32) : List (String × String) → PaletteError → Prop where
  | factors {colors : List (String × String)} (some : colors ≠ []) (unusable : ¬ factors.Usable) :
      Refuses factors colors .invalidFactors
  | color {before after : List (String × String)} {name hex : String} (usable : factors.Usable)
      (readable : ∀ color ∈ before, (hexToRgb color.2).isSome = true)
      (unreadable : hexToRgb hex = none) :
      Refuses factors (before ++ (name, hex) :: after) (.invalidHex name hex)

variable {factors : Factors Float32} {colors : List (String × String)} {options : Options}
  {mode : OutputMode} {e : PaletteError}

theorem rampFault?_of_usable (usable : factors.Usable) (color : String × String) :
    rampFault? factors color =
      if (hexToRgb color.2).isNone then some (.invalidHex color.1 color.2) else none := by
  rw [rampFault?, if_pos (isValid_iff.mpr usable)]

theorem rampFault?_of_unusable (unusable : ¬ factors.Usable) (color : String × String) :
    rampFault? factors color = some .invalidFactors := by
  rw [rampFault?, if_neg fun valid => unusable (isValid_iff.mp valid)]

/-- The first fault in a list of colors is what they are refused with. -/
theorem refuses_iff : Refuses factors colors e ↔ colors.findSome? (rampFault? factors) = some e := by
  constructor
  · intro refused
    cases refused with
    | factors filled unusable =>
      obtain ⟨first, rest, rfl⟩ := List.exists_cons_of_ne_nil filled
      rw [List.findSome?_cons, rampFault?_of_unusable unusable]
    | color usable readable unreadable =>
      apply List.findSome?_eq_some_iff.mpr
      refine ⟨_, _, _, rfl, ?_, fun color inside => ?_⟩
      · rw [rampFault?_of_usable usable, if_pos (by rw [unreadable]; rfl)]
      · rw [rampFault?_eq_none_iff]
        exact ⟨isValid_iff.mpr usable, readable color inside⟩
  · intro found
    obtain ⟨before, ⟨name, hex⟩, after, rfl, fault, faultless⟩ := List.findSome?_eq_some_iff.mp found
    by_cases usable : factors.Usable
    · rw [rampFault?_of_usable usable] at fault
      split at fault
      · next unreadable =>
        cases fault
        refine .color usable (fun color inside => ?_) (Option.isNone_iff_eq_none.mp unreadable)
        exact (rampFault?_eq_none_iff.mp (faultless color inside)).2
      · cases fault
    · rw [rampFault?_of_unusable usable] at fault
      cases fault
      exact .factors (by simp) usable

/-- A palette fails for the first fault of its colors, in every form. -/
theorem result_generate_eq_outcome (mode : OutputMode) (options : Options) :
    (generate mode options).result =
      Logged.outcome (options.colors.toList.findSome? (rampFault? options.factors))
        (mode.present (paletteEntries options)) := by
  rw [generate, Logged.result_bind, result_shades]
  exact Logged.bind_outcome _ _ mode.present

theorem result_generate_eq_error_iff :
    (generate mode options).result = .error e ↔
      Refuses options.factors options.colors.toList e := by
  rw [result_generate_eq_outcome, Logged.outcome_eq_error_iff, refuses_iff]

/-! ## What a refusal says -/

theorem Refuses.ne_uncheckedFactors (h : Refuses factors colors e) (unchecked : Factors Float32) :
    e ≠ .uncheckedFactors unchecked := by
  rintro rfl
  cases h

theorem Refuses.unusable (h : Refuses factors colors .invalidFactors) : ¬ factors.Usable := by
  cases h with
  | factors _ unusable => exact unusable

theorem Refuses.exists_split {name hex : String} (h : Refuses factors colors (.invalidHex name hex)) :
    factors.Usable ∧ hexToRgb hex = none ∧ ∃ before after, colors = before ++ (name, hex) :: after ∧
      ∀ color ∈ before, (hexToRgb color.2).isSome = true := by
  cases h with
  | color usable readable unreadable => exact ⟨usable, unreadable, _, _, rfl, readable⟩

/-- There is something to refuse exactly if there is a color, and the factors or a color are at fault. -/
theorem exists_refuses_iff :
    (∃ e, Refuses factors colors e) ↔
      colors ≠ [] ∧ (¬ factors.Usable ∨ ∃ color ∈ colors, hexToRgb color.2 = none) := by
  constructor
  · rintro ⟨e, refused⟩
    cases refused with
    | factors filled unusable => exact ⟨filled, Or.inl unusable⟩
    | @color before after name hex usable readable unreadable =>
      have inside : (name, hex) ∈ before ++ (name, hex) :: after := by simp
      exact ⟨List.ne_nil_of_mem inside, Or.inr ⟨(name, hex), inside, unreadable⟩⟩
  · rintro ⟨filled, fault⟩
    by_contra made
    have faultless : colors.findSome? (rampFault? factors) = none := by
      rw [Option.eq_none_iff_forall_ne_some]
      exact fun e found => made ⟨e, refuses_iff.mpr found⟩
    have readable := findSome?_rampFault?_eq_none_iff.mp faultless
    rcases fault with unusable | ⟨color, inside, unreadable⟩
    · obtain ⟨first, rest, rfl⟩ := List.exists_cons_of_ne_nil filled
      exact unusable (isValid_iff.mp (readable first List.mem_cons_self).1)
    · have read := (readable color inside).2
      rw [unreadable] at read
      cases read

/-! ## Messages -/

/-- What is said about a color that can be read. -/
def baseMessage? (color : String × String) : Option Message :=
  (hexToRgb color.2).map fun rgb =>
    let base : Hsl Float32 := rgbToHsl rgb
    ⟨.debug, "[PALETTE] " ++ color.1 ++ ": base " ++ color.2 ++ " hsl=(" ++
      Decimal.tenthsOfFloat32 base.hue ++ ", " ++ Decimal.tenthsOfFloat32 base.saturation ++ ", " ++
      Decimal.tenthsOfFloat32 base.lightness ++ ") neutral=" ++ toString (isNeutral base)⟩

/-- A ramp reports its base color, unless it fails. -/
theorem log_ramp (factors : Factors Float32) (dark : Bool) (name hex : String) :
    (ramp factors dark name hex).log =
      if factors.isValid then (baseMessage? (name, hex)).toList else [] := by
  rw [ramp]
  cases valid : factors.isValid with
  | false => rfl
  | true =>
    cases read : hexToRgb hex with
    | none => simp [baseMessage?, read]; rfl
    | some rgb => simp [baseMessage?, read]; rfl

theorem log_ramp_of_readable {color : String × String} (dark : Bool)
    (readable : Readable factors color.2) :
    (ramp factors dark color.1 color.2).log = (baseMessage? color).toList := by
  rw [log_ramp, if_pos readable.1]

theorem log_ramp_of_fault {color : String × String} (dark : Bool)
    (fault : (rampFault? factors color).isSome = true) :
    (ramp factors dark color.1 color.2).log = [] := by
  rw [log_ramp]
  split
  · next valid =>
    rw [rampFault?, if_pos valid] at fault
    cases read : hexToRgb color.2 with
    | none => rw [baseMessage?, read]; rfl
    | some rgb => rw [read] at fault; cases fault
  · rfl

/-- Colors are reported up to the first that has a fault. -/
theorem log_rampEach {β : Type} (factors : Factors Float32) (dark : Bool)
    (entry : String → Step × Hsl Float32 → β) (colors : List (String × String)) :
    (Logged.forEach (fun color => do
        let steps ← ramp factors dark color.1 color.2
        return steps.map (entry color.1)) colors).log =
      (colors.takeWhile fun color => (rampFault? factors color).isNone).filterMap baseMessage? := by
  refine (Logged.log_forEach (fun color _ => result_rampEntries factors dark entry color)
    fun color _ fault => ?_).trans ?_
  · exact (Logged.log_bind_return _ _).trans (log_ramp_of_fault dark fault)
  · rw [List.filterMap_eq_flatMap_toList]
    refine List.flatMap_congr fun color early => (Logged.log_bind_return _ _).trans ?_
    have faultless := List.mem_takeWhile_imp early
    exact log_ramp_of_readable dark (rampFault?_eq_none_iff.mp (Option.isNone_iff_eq_none.mp faultless))

theorem log_generate (mode : OutputMode) (options : Options) :
    (generate mode options).log =
      (options.colors.toList.takeWhile fun color =>
        (rampFault? options.factors color).isNone).filterMap baseMessage? := by
  rw [generate, Logged.log_bind_return, shades, Logged.log_bind_return]
  exact log_rampEach options.factors options.dark (paletteEntry options) options.colors.toList

/-- Colors that can be read are reported one by one. -/
theorem map_some_reports (readable : ∀ color ∈ colors, (hexToRgb color.2).isSome = true) :
    (colors.filterMap baseMessage?).map some = colors.map baseMessage? := by
  induction colors with
  | nil => rfl
  | cons color rest ih =>
    obtain ⟨first, others⟩ := List.forall_mem_cons.mp readable
    have reported : (baseMessage? color).isSome = true := by
      rw [baseMessage?, Option.isSome_map]
      exact first
    obtain ⟨message, said⟩ := Option.isSome_iff_exists.mp reported
    rw [List.filterMap_cons, said, List.map_cons, List.map_cons, ih others, said]

theorem log_generate_of_made {output : Output} (made : (generate mode options).result = .ok output) :
    (generate mode options).log.map some = options.colors.toList.map baseMessage? := by
  have readable := readable_of_made made
  have all : (options.colors.toList.takeWhile fun color =>
      (rampFault? options.factors color).isNone) = options.colors.toList := by
    apply List.takeWhile_eq_self_iff.mpr
    intro color inside
    rw [Option.isNone_iff_eq_none, rampFault?_eq_none_iff]
    exact readable color inside
  rw [log_generate, all]
  exact map_some_reports fun color inside => (readable color inside).2

/-- Factors that may not be used are found before any color is reported. -/
theorem log_generate_of_unusable (unusable : ¬ options.factors.Usable) :
    (generate mode options).log = [] := by
  rw [log_generate]
  cases options.colors.toList with
  | nil => rfl
  | cons color rest => rw [List.takeWhile_cons, rampFault?_of_unusable unusable]; rfl

/-- The colors before the first that cannot be read are reported. -/
theorem log_generate_of_unreadable {before after : List (String × String)} {name hex : String}
    (usable : options.factors.Usable)
    (split : options.colors.toList = before ++ (name, hex) :: after)
    (readable : ∀ color ∈ before, (hexToRgb color.2).isSome = true)
    (unreadable : hexToRgb hex = none) :
    (generate mode options).log.map some = before.map baseMessage? := by
  have faultless : ∀ color ∈ before, (rampFault? options.factors color).isNone = true := by
    intro color inside
    rw [Option.isNone_iff_eq_none, rampFault?_eq_none_iff]
    exact ⟨isValid_iff.mpr usable, readable color inside⟩
  have fault : (rampFault? options.factors (name, hex)).isNone = false := by
    rw [rampFault?_of_usable usable, if_pos (by rw [unreadable]; rfl)]
    rfl
  rw [log_generate, split, List.takeWhile_append_of_pos faultless, List.takeWhile_cons, fault]
  exact (congrArg (List.map some) (congrArg (List.filterMap baseMessage?) (List.append_nil before))).trans
    (map_some_reports readable)

/-- A palette in any form is made or refused as a whole. It is refused exactly if there are colors and the
factors may not be used, or else for the first color that cannot be read; form, direction and prefix have no
part in that, and factors never reach a division unchecked. The palette that is made has all shades of all
colors: it is written from a map that gives each of their names what the form makes of some channels. One
message stands for each color in turn, up to the one that cannot be read. -/
theorem palette_fails_for_first_fault (mode : OutputMode) (options : Options) :
    (∀ e, (generate mode options).result = .error e ↔
      Refuses options.factors options.colors.toList e) ∧
    ((∃ e, (generate mode options).result = .error e) ↔ options.colors.toList ≠ [] ∧
      (¬ options.factors.Usable ∨ ∃ color ∈ options.colors.toList, hexToRgb color.2 = none)) ∧
    (∀ other dark namePrefix e, (generate mode options).result = .error e →
      (generate other { options with dark := dark, namePrefix := namePrefix }).result = .error e) ∧
    (∀ factors, (generate mode options).result ≠ .error (.uncheckedFactors factors)) ∧
    (∀ output, (generate mode options).result = .ok output →
      (∃ entries, output = mode.present entries ∧ entries.map Prod.fst =
        shadeNames options.namePrefix options.dark options.colors.keys) ∧
      (∃ given : OrderedMap String String, output = mode.write given ∧
        given.keys = shadeNames options.namePrefix options.dark options.colors.keys ∧
        ∀ entry ∈ given.toList, ∃ c : Rgb, entry.2 = mode.valueOf entry.1 c.components) ∧
      (generate mode options).log.map some = options.colors.toList.map baseMessage?) ∧
    ((generate mode options).result = .error .invalidFactors → (generate mode options).log = []) ∧
    (∀ name hex, (generate mode options).result = .error (.invalidHex name hex) →
      ∃ before after, options.colors.toList = before ++ (name, hex) :: after ∧
        (∀ color ∈ before, (hexToRgb color.2).isSome = true) ∧
        (generate mode options).log.map some = before.map baseMessage?) := by
  refine ⟨fun e => result_generate_eq_error_iff, ?fails, ?apart, ?unchecked, ?made, ?factors, ?color⟩
  case fails =>
    rw [← exists_refuses_iff]
    exact exists_congr fun e => result_generate_eq_error_iff
  case apart =>
    intro other dark namePrefix e failed
    have refused := result_generate_eq_error_iff.mp failed
    exact result_generate_eq_error_iff.mpr refused
  case unchecked =>
    intro factors failed
    exact (result_generate_eq_error_iff.mp failed).ne_uncheckedFactors factors rfl
  case made =>
    intro output made
    obtain ⟨readable, presented⟩ := generate_ok_iff.mp made
    have written := made.symm.trans (result_generate_of_readable mode readable)
    exact ⟨⟨paletteEntries options, presented, map_fst_paletteEntries readable⟩,
      ⟨givenValues mode options, Except.ok.inj written, keys_givenValues mode readable,
        fun entry => exists_components_of_mem_givenValues readable⟩,
      log_generate_of_made made⟩
  case factors =>
    intro failed
    exact log_generate_of_unusable (result_generate_eq_error_iff.mp failed).unusable
  case color =>
    intro name hex failed
    obtain ⟨usable, unreadable, before, after, split, readable⟩ :=
      (result_generate_eq_error_iff.mp failed).exists_split
    exact ⟨before, after, split, readable,
      log_generate_of_unreadable usable split readable unreadable⟩

/-- The second of three colors cannot be read, so only the first is reported. A factor of zero comes before
all colors, and of no colors a palette is made whatever the factors are. -/
theorem palette_fails_for_second_color :
    (generate .reference { colors := .ofList [("a", "#fff"), ("b", "#12"), ("c", "")] }).result =
      .error (.invalidHex "b" "#12") ∧
    (generate .reference { colors := .ofList [("a", "#fff"), ("b", "#12"), ("c", "")] }).log =
      [⟨.debug, "[PALETTE] a: base #fff hsl=(0.0, 0.0, 100.0) neutral=true"⟩] ∧
    (generate .cssVariables { colors := .ofList [("b", "#12")], factors := ⟨1, 0, 1, 1⟩ }).result =
      .error .invalidFactors ∧
    ¬ ∃ e, (generate .cssVariables { factors := ⟨1, 0, 1, 1⟩ }).result = .error e := by
  have usable : (default : Factors Float32).Usable := isValid_iff.mp (by decide +kernel)
  have unusable : ¬ Factors.Usable ⟨1, 0, 1, 1⟩ := fun usable =>
    absurd (isValid_iff.mpr usable) (by decide +kernel)
  refine ⟨?_, by decide +kernel, ?_, ?_⟩
  · refine ((palette_fails_for_first_fault .reference _).1 _).mpr ?_
    change Refuses default ([("a", "#fff")] ++ ("b", "#12") :: [("c", "")]) _
    exact .color usable (List.forall_mem_singleton.mpr rfl) rfl
  · exact ((palette_fails_for_first_fault .cssVariables _).1 _).mpr (.factors (by decide) unusable)
  · intro failed
    exact ((palette_fails_for_first_fault .cssVariables _).2.1.mp failed).1 rfl

end UtilityCss.Palette
