import UtilityCss.Proofs.Utility.Rule
import UtilityCss.Proofs.Utility.Table

/-!
# Weights and families of fonts

Without a key the value of the font utility decides: names of weights and plain numbers set the weight, and
everything else sets the family. Names that end in two zeros are the exception. They are taken for weights,
although no list and no grammar has them, and they are set as they stand. Whether a family is installed, or
a number is a weight that a font has, is not asked.
-/
namespace UtilityCss.Utility

variable {t : Token} {value : String}

/-- The text is the name of a weight or a plain number. -/
def IsWeight (value : String) : Prop :=
  value ∈ fontWeights.map Prod.fst ∨ Value.isNumber value = true

instance decidableIsWeight (value : String) : Decidable (IsWeight value) :=
  inferInstanceAs (Decidable (_ ∨ _))

/-- The text is no weight, and ends in two zeros. -/
def EndsLikeWeight (value : String) : Prop := ¬ IsWeight value ∧ ∃ front, value = front ++ "00"

theorem isSome_fontWeight_iff :
    (fontWeights.lookup value).isSome = true ↔ value ∈ fontWeights.map Prod.fst := by
  rw [Option.isSome_iff_ne_none, ne_eq, OrderedMap.lookup_eq_none_iff_notMem, not_not]

theorem endsInZeros_iff : ['0', '0'].isSuffixOf value.toList = true ↔ ∃ front, value = front ++ "00" := by
  rw [List.isSuffixOf_iff_suffix]
  constructor
  · rintro ⟨front, split⟩
    refine ⟨String.ofList front, String.toList_inj.mp ?_⟩
    rw [String.toList_append, String.toList_ofList]
    exact split.symm
  · rintro ⟨front, rfl⟩
    rw [String.toList_append]
    exact List.suffix_append front.toList ['0', '0']

/-- The rule for weights accepts weights and what ends like one. -/
theorem isFontWeight_iff : isFontWeight t = true ↔ IsWeight t.value ∨ EndsLikeWeight t.value := by
  rw [isFontWeight, Bool.or_eq_true, Bool.or_eq_true, isSome_fontWeight_iff, endsInZeros_iff,
    EndsLikeWeight, ← IsWeight]
  by_cases weight : IsWeight t.value
  · simp [weight]
  · simp [weight]

theorem entry?_font : builtinTable.entry? "font" = some font := by
  rw [entry?_builtinTable]
  rfl

/-- Without a key one of the two properties is set, as the rule for weights decides. -/
theorem resolve_font (context : Context) (unkeyed : t.key = "") (present : t.value ≠ "") :
    builtinTable.resolve "font" t context = some (.text
      (if isFontWeight t then "font-weight: " ++ (fontWeights.lookup t.value).getD t.value
      else "font-family: " ++ t.value)) := by
  have selected : (firstMatch fontRules t).getD fontFamily t context =
      if isFontWeight t then [⟨"font-weight", (fontWeights.lookup t.value).getD t.value⟩]
      else [⟨"font-family", t.value⟩] := by
    rw [firstMatch_of_unknown (not_hasKeyOf_of_unkeyed unkeyed)]
    cases weight : isFontWeight t with
    | true => simp [fontRules, weight]
    | false => simp [fontRules, weight, keyedOnly, fontFamily]
  rw [PropertyTable.resolve_of_found entry?_font, font, Entry.resolve, bySelectedRule,
    if_neg (by simpa using present), selected]
  split
  · rfl
  · rfl

/-- No text sets both. -/
theorem weight_ne_family (weight family : String) : "font-weight: " ++ weight ≠ "font-family: " ++ family := by
  intro same
  have letters := congrArg String.toList same
  simp at letters

theorem resolve_font_of_isWeight (context : Context) (unkeyed : t.key = "") (present : t.value ≠ "")
    (weight : IsWeight t.value) :
    builtinTable.resolve "font" t context =
      some (.text ("font-weight: " ++ (fontWeights.lookup t.value).getD t.value)) := by
  rw [resolve_font context unkeyed present, if_pos (isFontWeight_iff.mpr (Or.inl weight))]

/-- What only ends like a weight has no meaning as a weight, so it is set as it stands. -/
theorem resolve_font_of_endsLikeWeight (context : Context) (unkeyed : t.key = "") (present : t.value ≠ "")
    (alike : EndsLikeWeight t.value) :
    builtinTable.resolve "font" t context = some (.text ("font-weight: " ++ t.value)) := by
  have unnamed : fontWeights.lookup t.value = none :=
    OrderedMap.lookup_eq_none_iff_notMem.mpr fun named => alike.1 (Or.inl named)
  rw [resolve_font context unkeyed present, if_pos (isFontWeight_iff.mpr (Or.inr alike)), unnamed,
    Option.getD_none]

theorem resolve_font_of_family (context : Context) (unkeyed : t.key = "") (present : t.value ≠ "")
    (other : ¬ IsWeight t.value) (unlike : ¬ EndsLikeWeight t.value) :
    builtinTable.resolve "font" t context = some (.text ("font-family: " ++ t.value)) := by
  have family : ¬ isFontWeight t = true := fun weight => (isFontWeight_iff.mp weight).elim other unlike
  rw [resolve_font context unkeyed present, if_neg family]

/-- A font value without a key sets the weight exactly if it is the name of a weight or a plain number, and
else the family, except that a text which only ends in two zeros sets the weight as it stands. -/
theorem font_sets_weight_or_family_iff (t : Token) (context : Context) (unkeyed : t.key = "")
    (present : t.value ≠ "") :
    (((∃ weight, builtinTable.resolve "font" t context = some (.text ("font-weight: " ++ weight))) ↔
          IsWeight t.value) ∧
        (¬ IsWeight t.value →
          builtinTable.resolve "font" t context = some (.text ("font-family: " ++ t.value))) ↔
      ¬ EndsLikeWeight t.value) ∧
    (IsWeight t.value → builtinTable.resolve "font" t context =
      some (.text ("font-weight: " ++ (fontWeights.lookup t.value).getD t.value))) ∧
    (EndsLikeWeight t.value →
      builtinTable.resolve "font" t context = some (.text ("font-weight: " ++ t.value))) := by
  refine ⟨⟨?fails, ?holds⟩, resolve_font_of_isWeight context unkeyed present,
    resolve_font_of_endsLikeWeight context unkeyed present⟩
  case fails =>
    rintro ⟨exactly, -⟩ alike
    exact alike.1 (exactly.mp ⟨t.value, resolve_font_of_endsLikeWeight context unkeyed present alike⟩)
  case holds =>
    intro unlike
    refine ⟨⟨?_, fun weight => ⟨_, resolve_font_of_isWeight context unkeyed present weight⟩⟩,
      fun other => resolve_font_of_family context unkeyed present other unlike⟩
    rintro ⟨weight, resolved⟩
    refine Decidable.byContradiction fun other => ?_
    rw [resolve_font_of_family context unkeyed present other unlike, Option.some.injEq,
      Resolved.text.injEq] at resolved
    exact weight_ne_family weight t.value resolved.symm

/-- A named weight, a number with a sign, and a family that ends in a digit. -/
theorem font_sets_weight_or_family_for_names :
    ¬ EndsLikeWeight "bold" ∧ IsWeight "+650" ∧ ¬ IsWeight "Noto Sans 7" ∧
    builtinTable.resolve "font" { value := "bold" } {} = some (.text "font-weight: 700") ∧
    builtinTable.resolve "font" { value := "+650" } {} = some (.text "font-weight: +650") ∧
    builtinTable.resolve "font" { value := "Noto Sans 7" } {} = some (.text "font-family: Noto Sans 7") := by
  have named : IsWeight "bold" := Or.inl (by decide)
  have number : IsWeight "+650" := Or.inr (by decide +kernel)
  have family : ¬ IsWeight "Noto Sans 7" := by decide +kernel
  have unlike : ¬ EndsLikeWeight "Noto Sans 7" := by
    rintro ⟨-, front, split⟩
    have zeros := endsInZeros_iff.mpr ⟨front, split⟩
    exact absurd zeros (by decide)
  refine ⟨fun alike => alike.1 named, number, family, ?_, ?_, ?_⟩
  · exact (font_sets_weight_or_family_iff { value := "bold" } {} rfl (by decide)).2.1 named
  · exact (font_sets_weight_or_family_iff { value := "+650" } {} rfl (by decide)).2.1 number
  · exact ((font_sets_weight_or_family_iff { value := "Noto Sans 7" } {} rfl (by decide)).1.mpr unlike).2
      family

/-- The name of a family that ends in two zeros is set as a weight. -/
theorem font_sets_family_as_weight :
    ¬ IsWeight "Museo500" ∧
    builtinTable.resolve "font" { value := "Museo500" } {} = some (.text "font-weight: Museo500") := by
  have family : ¬ IsWeight "Museo500" := by decide +kernel
  have alike : EndsLikeWeight "Museo500" := ⟨family, "Museo5", by decide⟩
  exact ⟨family, resolve_font_of_endsLikeWeight {} rfl (by decide) alike⟩

end UtilityCss.Utility
