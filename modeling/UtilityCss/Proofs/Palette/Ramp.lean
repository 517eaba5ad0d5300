import Mathlib.Data.List.Nodup
import UtilityCss.Palette.Ramp
import UtilityCss.Proofs.Log
import UtilityCss.Proofs.Text

/-!
# What a ramp holds

With valid factors and a color that can be read, a ramp has one shade for each step of the walk. A
shade's name determines the color and the step that it was made of, because no label holds a hyphen;
a color may itself have a name that looks like that of a shade.
-/
namespace UtilityCss.Palette

open UtilityCss.Color UtilityCss.Text

/-- The shades of a color that has been read, along the walk. -/
def colorShades (factors : Factors Float32) (dark : Bool) (rgb : Rgb) :
    List (Step × Hsl Float32) :=
  let base : Hsl Float32 := rgbToHsl rgb
  (Step.walk dark).zipIdx.map fun (step, ordinal) =>
    (step, shade factors (isNeutral base) ordinal base)

theorem map_fst_colorShades (factors : Factors Float32) (dark : Bool) (rgb : Rgb) :
    (colorShades factors dark rgb).map Prod.fst = Step.walk dark := by
  simp only [colorShades, List.map_map]
  exact List.zipIdx_map_fst 0 (Step.walk dark)

theorem length_walk (dark : Bool) : (Step.walk dark).length = 11 := by
  cases dark <;> rfl

theorem nodup_walk (dark : Bool) : (Step.walk dark).Nodup := by
  cases dark <;> decide

theorem mem_walk (dark : Bool) (step : Step) : step ∈ Step.walk dark := by
  cases dark <;> cases step <;> decide

theorem isValid_iff {factors : Factors Float32} :
    factors.isValid = true ↔ ∀ factor ∈ factors.toList, factor.isFinite = true ∧ 0 < factor := by
  simp [Factors.isValid]

theorem adjustShade_of_isValid {factors : Factors Float32} (valid : factors.isValid = true)
    (neutral : Bool) (ordinal : Nat) (base : Hsl Float32) :
    adjustShade factors neutral ordinal base = .ok (shade factors neutral ordinal base) := by
  rw [adjustShade, Factors.checked, if_pos valid]
  rfl

/-- A color that a palette can be made of. -/
def Readable (factors : Factors Float32) (hex : String) : Prop :=
  factors.isValid = true ∧ (hexToRgb hex).isSome = true

/-- The shades that a color contributes to a listing; none if it cannot be read. -/
def listedShades (factors : Factors Float32) (dark : Bool) (hex : String) :
    List (Step × Hsl Float32) :=
  ((hexToRgb hex).map (colorShades factors dark)).getD []

theorem map_fst_listedShades {factors : Factors Float32} {hex : String} (dark : Bool)
    (readable : Readable factors hex) :
    (listedShades factors dark hex).map Prod.fst = Step.walk dark := by
  obtain ⟨rgb, read⟩ := Option.isSome_iff_exists.mp readable.2
  simp only [listedShades, read, Option.map_some, Option.getD_some, map_fst_colorShades]

/-- A color that can be read has a shade for each step. -/
theorem exists_mem_listedShades {factors : Factors Float32} {hex : String} (dark : Bool)
    (readable : Readable factors hex) (step : Step) :
    ∃ hsl, (step, hsl) ∈ listedShades factors dark hex := by
  have walked : step ∈ (listedShades factors dark hex).map Prod.fst := by
    rw [map_fst_listedShades dark readable]
    exact mem_walk dark step
  obtain ⟨⟨_, hsl⟩, listed, rfl⟩ := List.mem_map.mp walked
  exact ⟨hsl, listed⟩

/-- What is wrong with a color that no ramp can be made of. Factors are looked at before the color. -/
def rampFault? (factors : Factors Float32) (color : String × String) : Option PaletteError :=
  if factors.isValid then
    if (hexToRgb color.2).isNone then some (.invalidHex color.1 color.2) else none
  else some .invalidFactors

theorem rampFault?_eq_none_iff {factors : Factors Float32} {color : String × String} :
    rampFault? factors color = none ↔ Readable factors color.2 := by
  rw [rampFault?, Readable]
  by_cases valid : factors.isValid = true
  · cases hexToRgb color.2 <;> simp [valid]
  · simp [valid]

/-- A ramp of valid factors never meets unchecked ones. -/
theorem result_ramp (factors : Factors Float32) (dark : Bool) (name hex : String) :
    (ramp factors dark name hex).result =
      Logged.outcome (rampFault? factors (name, hex)) (listedShades factors dark hex) := by
  rw [ramp, rampFault?, listedShades]
  by_cases valid : factors.isValid = true
  · cases hexToRgb hex with
    | none => simp [valid, Logged.outcome]
    | some rgb =>
      let base : Hsl Float32 := rgbToHsl rgb
      have walked : (Step.walk dark).zipIdx.mapM (fun x =>
            (.ok (x.1, shade factors (isNeutral base) x.2 base) : Except PaletteError _)) =
          .ok (colorShades factors dark rgb) := List.mapM_pure
      simp [valid, adjustShade_of_isValid valid, walked, base, Except.bind, Logged.outcome]
  · simp [valid, Except.bind, Logged.outcome]

theorem ramp_ok_iff {factors : Factors Float32} {dark : Bool} {name hex : String}
    {steps : List (Step × Hsl Float32)} :
    (ramp factors dark name hex).result = .ok steps ↔
      Readable factors hex ∧ steps = listedShades factors dark hex := by
  rw [result_ramp, Logged.outcome_eq_ok_iff, rampFault?_eq_none_iff]

/-- The entries of one color fail as its ramp does. -/
theorem result_rampEntries {β : Type} (factors : Factors Float32) (dark : Bool)
    (entry : String → Step × Hsl Float32 → β) (color : String × String) :
    (do
      let steps ← ramp factors dark color.1 color.2
      return steps.map (entry color.1)).result =
      Logged.outcome (rampFault? factors color)
        ((listedShades factors dark color.2).map (entry color.1)) := by
  rw [Logged.result_bind, result_ramp]
  exact Logged.bind_outcome _ _ (List.map (entry color.1))

/-- A listing of all colors fails for the first color that has a fault. -/
theorem result_rampEach {β : Type} (factors : Factors Float32) (dark : Bool)
    (entry : String → Step × Hsl Float32 → β) (colors : List (String × String)) :
    (Logged.forEach (fun color => do
        let steps ← ramp factors dark color.1 color.2
        return steps.map (entry color.1)) colors).result =
      Logged.outcome (colors.findSome? (rampFault? factors))
        (colors.map fun color => (listedShades factors dark color.2).map (entry color.1)) :=
  Logged.result_forEach fun color _ => result_rampEntries factors dark entry color

/-- No color has a fault if all can be read. -/
theorem findSome?_rampFault?_eq_none_iff {factors : Factors Float32}
    {colors : List (String × String)} :
    colors.findSome? (rampFault? factors) = none ↔
      ∀ color ∈ colors, Readable factors color.2 := by
  rw [List.findSome?_eq_none_iff]
  exact forall₂_congr fun _ _ => rampFault?_eq_none_iff

/-- With valid factors the first fault is that of the first color that cannot be read. -/
theorem findSome?_rampFault? {factors : Factors Float32} (valid : factors.isValid = true)
    (colors : List (String × String)) :
    colors.findSome? (rampFault? factors) =
      (colors.find? fun color => (hexToRgb color.2).isNone).map fun color =>
        .invalidHex color.1 color.2 := by
  rw [← List.findSome?_guard, List.map_findSome?]
  congr 1
  funext color
  rw [rampFault?, if_pos valid, Function.comp_apply, Option.guard]
  cases hexToRgb color.2 with
  | none => rfl
  | some rgb => rfl

/-! ## Names of shades -/

theorem isDigit_of_mem_label {step : Step} {c : Char} (h : c ∈ step.label.toList) :
    isDigit c = true := by
  have all : step.label.toList.all isDigit = true := by
    cases step <;> decide
  exact List.all_eq_true.mp all c h

theorem notMem_label (step : Step) : '-' ∉ step.label.toList :=
  fun hyphen => absurd (isDigit_of_mem_label hyphen) (by decide)

/-- A shade's name determines its color and its step. -/
theorem shadeName_injective {color other : String} {step last : Step}
    (same : shadeName color step = shadeName other last) : color = other ∧ step = last := by
  have cut : color.toList ++ '-' :: step.label.toList = other.toList ++ '-' :: last.label.toList := by
    simpa [shadeName] using congrArg String.toList same
  obtain ⟨colors, labels⟩ := eq_of_append_separator (notMem_label step) (notMem_label last) cut
  exact ⟨String.toList_inj.mp colors, Step.label_injective (String.toList_inj.mp labels)⟩

/-- All labels end in a zero. -/
theorem getLast?_shadeName (color : String) (step : Step) :
    (shadeName color step).toList.getLast? = some '0' := by
  cases step <;> simp [shadeName, Step.label, List.getLast?_append]

/-- A shade's name adds digits and a hyphen to that of its color. -/
theorem notMem_shadeName {color : String} {c : Char} (noHyphen : c ≠ '-') (noDigit : isDigit c = false)
    (clean : c ∉ color.toList) (step : Step) : c ∉ (shadeName color step).toList := by
  intro inside
  simp only [shadeName, String.toList_append, List.mem_append] at inside
  rcases inside with (inside | hyphen) | digit
  · exact clean inside
  · exact noHyphen (List.mem_singleton.mp hyphen)
  · rw [isDigit_of_mem_label digit] at noDigit
    cases noDigit

/-- The names of all shades of some colors, behind a prefix. -/
def shadeNames (namePrefix : String) (dark : Bool) (colors : List String) : List String :=
  colors.flatMap fun color =>
    (Step.walk dark).map fun step => namePrefix ++ shadeName color step

theorem shadeNames_append (namePrefix : String) (dark : Bool) (colors others : List String) :
    shadeNames namePrefix dark (colors ++ others) =
      shadeNames namePrefix dark colors ++ shadeNames namePrefix dark others :=
  List.flatMap_append

/-- Without a prefix the names of one color's shades are plain. -/
theorem shadeNames_singleton (dark : Bool) (color : String) :
    shadeNames "" dark [color] = (Step.walk dark).map (shadeName color) := by
  simp [shadeNames]

/-- Distinct colors give distinct names. -/
theorem nodup_shadeNames (namePrefix : String) (dark : Bool) {colors : List String}
    (distinct : colors.Nodup) : (shadeNames namePrefix dark colors).Nodup := by
  rw [shadeNames, List.nodup_flatMap]
  constructor
  · intro color _
    refine (List.nodup_map_iff_inj_on (nodup_walk dark)).mpr ?_
    intro step _ last _ same
    exact (shadeName_injective ((String.append_right_inj _).mp same)).2
  · refine List.Pairwise.imp ?_ distinct
    intro color other differ name hname hname'
    obtain ⟨step, _, rfl⟩ := List.mem_map.mp hname
    obtain ⟨last, _, same⟩ := List.mem_map.mp hname'
    exact differ (shadeName_injective ((String.append_right_inj _).mp same)).1.symm

/-- Entries that are named by color and shade have the names of all shades. -/
theorem map_fst_rampEntries {β : Type} {factors : Factors Float32} {colors : List (String × String)}
    {namePrefix : String} {entry : String → Step × Hsl Float32 → String × β} (dark : Bool)
    (named : ∀ color shade, (entry color shade).1 = namePrefix ++ shadeName color shade.1)
    (readable : ∀ color ∈ colors, Readable factors color.2) :
    (colors.flatMap fun color =>
        (listedShades factors dark color.2).map (entry color.1)).map Prod.fst =
      shadeNames namePrefix dark (colors.map Prod.fst) := by
  rw [shadeNames, List.map_flatMap, List.flatMap_map]
  refine List.flatMap_congr fun color hcolor => ?_
  rw [List.map_map, ← map_fst_listedShades dark (readable color hcolor), List.map_map]
  exact List.map_congr_left fun shade _ => named color.1 shade

theorem length_shadeNames (namePrefix : String) (dark : Bool) (colors : List String) :
    (shadeNames namePrefix dark colors).length = 11 * colors.length := by
  induction colors with
  | nil => rfl
  | cons color rest ih =>
    rw [shadeNames] at ih ⊢
    simp only [List.flatMap_cons, List.length_append, List.length_map, length_walk, ih,
      List.length_cons]
    omega

end UtilityCss.Palette
