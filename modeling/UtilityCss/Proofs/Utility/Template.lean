import UtilityCss.Proofs.Utility.Table
import UtilityCss.Proofs.Utility.Value
import UtilityCss.Proofs.Value.Template

/-!
# Templates and units

A template is filled if the value alone is a plain number, whatever the unit of the token is; the unit
is then left out. So a token with a unit may be given the unit of the template, and a number that only
the value and its unit make up together is not filled in. Tokens without a unit are treated as the value
and the unit together ask for.
-/
namespace UtilityCss.Utility

open UtilityCss.Value

/-- What the value and its unit together ask for: a plain number fills the template, and anything else
stands for itself. -/
def templateOfJoined (pattern : String) (t : Token) : Option String :=
  if isNumber t.joined then some (substitute pattern t.joined) else nonEmpty? t.joined

/-- The unit changes what is asked for, and the template does not show it. -/
inductive MissesUnit (pattern : String) (t : Token) : Prop where
  /-- The unit goes on with the number, and is left out of the places. -/
  | cutsNumber (number : isNumber t.value = true) (longer : isNumber t.joined = true)
      (unit : t.unit ≠ "") (filled : HasPlace pattern)
  /-- With the unit it is no plain number any more, and the unit is left out or replaced. -/
  | dropsUnit (number : isNumber t.value = true) (other : ¬ isNumber t.joined = true)
      (changed : substitute pattern t.value ≠ t.joined)
  /-- Only with the unit it is a plain number, which is not filled in. -/
  | missesNumber (other : ¬ isNumber t.value = true) (number : isNumber t.joined = true)
      (unfilled : substitute pattern t.joined ≠ t.joined)

variable {pattern : String} {t : Token}

/-- Only a unit can be missed. -/
theorem MissesUnit.unit_ne_empty (h : MissesUnit pattern t) : t.unit ≠ "" := by
  intro unitless
  have joined := Token.joined_of_unitless unitless
  cases h with
  | cutsNumber _ _ unit _ => exact unit unitless
  | dropsUnit number other _ => exact other (joined ▸ number)
  | missesNumber other number _ => exact other (joined ▸ number)

/-! ## What a template gives -/

theorem template_of_isNumber (pattern : String) (context : Context)
    (number : isNumber t.value = true) :
    (ValueSpec.template pattern).value? t context = some (substitute pattern t.value) := by
  rw [ValueSpec.value?, if_pos number]

theorem template_of_not_isNumber (pattern : String) (context : Context)
    (other : ¬ isNumber t.value = true) :
    (ValueSpec.template pattern).value? t context = nonEmpty? t.joined := by
  rw [ValueSpec.value?, if_neg other]

/-! ## What is asked for -/

theorem nonEmpty?_of_ne {text : String} (present : text ≠ "") : nonEmpty? text = some text := by
  simp [nonEmpty?, present]

/-- The empty text is no number. -/
theorem ne_empty_of_isNumber {text : String} (number : isNumber text = true) : text ≠ "" := by
  rintro rfl
  exact absurd number (by decide)

theorem templateOfJoined_of_number (pattern : String) (number : isNumber t.joined = true) :
    templateOfJoined pattern t = some (substitute pattern t.joined) := by
  rw [templateOfJoined, if_pos number]

theorem templateOfJoined_of_other (pattern : String) (other : ¬ isNumber t.joined = true) :
    templateOfJoined pattern t = nonEmpty? t.joined := by
  rw [templateOfJoined, if_neg other]

/-! ## Where they agree -/

/-- A number that the unit goes on with shows the unit nowhere but in a template without places. -/
theorem template_eq_iff_of_longer (context : Context) (number : isNumber t.value = true)
    (longer : isNumber t.joined = true) :
    (ValueSpec.template pattern).value? t context = templateOfJoined pattern t ↔
      ¬ MissesUnit pattern t := by
  rw [template_of_isNumber pattern context number, templateOfJoined_of_number pattern longer,
    Option.some.injEq, eq_comm, Token.joined, substitute_append_eq_iff]
  constructor
  · rintro kept (⟨_, _, unit, filled⟩ | ⟨_, other, _⟩ | ⟨other, _, _⟩)
    · exact kept.elim (fun absent => absent filled) unit
    · exact other longer
    · exact other number
  · intro kept
    by_cases unit : t.unit = ""
    · exact Or.inr unit
    · exact Or.inl fun filled => kept (.cutsNumber number longer unit filled)

/-- A number with a unit of another kind shows it only if the filled template happens to. -/
theorem template_eq_iff_of_unit (context : Context) (number : isNumber t.value = true)
    (other : ¬ isNumber t.joined = true) :
    (ValueSpec.template pattern).value? t context = templateOfJoined pattern t ↔
      ¬ MissesUnit pattern t := by
  have present : t.joined ≠ "" := Token.joined_ne_empty (ne_empty_of_isNumber number)
  rw [template_of_isNumber pattern context number, templateOfJoined_of_other pattern other,
    nonEmpty?_of_ne present, Option.some.injEq]
  constructor
  · rintro same (⟨_, longer, _, _⟩ | ⟨_, _, changed⟩ | ⟨noNumber, _, _⟩)
    · exact other longer
    · exact changed same
    · exact noNumber number
  · intro kept
    by_contra changed
    exact kept (.dropsUnit number other changed)

/-- What is no number is not filled in, even if it becomes one with its unit. -/
theorem template_eq_iff_of_not_isNumber (context : Context) (other : ¬ isNumber t.value = true) :
    (ValueSpec.template pattern).value? t context = templateOfJoined pattern t ↔
      ¬ MissesUnit pattern t := by
  rw [template_of_not_isNumber pattern context other]
  by_cases number : isNumber t.joined = true
  · rw [templateOfJoined_of_number pattern number, nonEmpty?_of_ne (ne_empty_of_isNumber number),
      Option.some.injEq, eq_comm]
    constructor
    · rintro same (⟨again, _, _, _⟩ | ⟨again, _, _⟩ | ⟨_, _, unfilled⟩)
      · exact other again
      · exact other again
      · exact unfilled same
    · intro kept
      by_contra unfilled
      exact kept (.missesNumber other number unfilled)
  · rw [templateOfJoined_of_other pattern number]
    refine iff_of_true rfl ?_
    rintro (⟨_, again, _, _⟩ | ⟨again, _, _⟩ | ⟨_, again, _⟩)
    · exact number again
    · exact other again
    · exact number again

/-- A template gives what the value and its unit together ask for exactly if it does not miss the unit,
so always where there is none. It is the value alone that decides: if that is a plain number, the
template is filled with it and every unit is left out. -/
theorem template_follows_pair_iff (pattern : String) (t : Token) (context : Context) :
    ((ValueSpec.template pattern).value? t context = templateOfJoined pattern t ↔
        ¬ MissesUnit pattern t) ∧
      (t.unit = "" → (ValueSpec.template pattern).value? t context = templateOfJoined pattern t) ∧
      (isNumber t.value = true → ∀ unit,
        (ValueSpec.template pattern).value? { t with unit := unit } context =
          some (substitute pattern t.value)) := by
  have agrees : (ValueSpec.template pattern).value? t context = templateOfJoined pattern t ↔
      ¬ MissesUnit pattern t := by
    by_cases number : isNumber t.value = true
    · by_cases longer : isNumber t.joined = true
      · exact template_eq_iff_of_longer context number longer
      · exact template_eq_iff_of_unit context number longer
    · exact template_eq_iff_of_not_isNumber context number
  refine ⟨agrees, ?unitless, ?numeric⟩
  case unitless => exact fun unitless => agrees.mpr fun missed => missed.unit_ne_empty unitless
  case numeric =>
    intro number unit
    exact @template_of_isNumber { t with unit := unit } pattern context number

/-- A percentage is what it would be without its sign, because the template brings in the same one. -/
theorem percentage_follows_pair :
    ¬ MissesUnit "\x7b0\x7d%" ⟨"", "40", "%", "", ""⟩ ∧
    (ValueSpec.template "\x7b0\x7d%").value? ⟨"", "40", "%", "", ""⟩ {} =
      templateOfJoined "\x7b0\x7d%" ⟨"", "40", "%", "", ""⟩ := by
  have kept : ¬ MissesUnit "\x7b0\x7d%" ⟨"", "40", "%", "", ""⟩ := by
    rintro (⟨_, longer, _, _⟩ | ⟨_, _, changed⟩ | ⟨other, _, _⟩)
    · exact absurd longer (by decide +kernel)
    · exact changed (by decide +kernel)
    · exact other (by decide +kernel)
  exact ⟨kept, (template_follows_pair_iff _ _ {}).1.mpr kept⟩

theorem entry?_outlineOffset :
    builtinTable.entry? "outline-offset" =
      some (.property "outlineOffset" (.template "\x7b0\x7dpx")) := by
  rw [entry?_builtinTable]
  rfl

/-- An offset in another unit than that of the template is given the unit of the template. -/
theorem outline_offset_loses_rem :
    builtinTable.resolve "outline-offset" ⟨"", "2", "rem", "", ""⟩ {} =
      some (.properties ["outlineOffset"] "2px") ∧
    (ValueSpec.template "\x7b0\x7dpx").value? ⟨"", "2", "rem", "", ""⟩ {} = some "2px" ∧
    templateOfJoined "\x7b0\x7dpx" ⟨"", "2", "rem", "", ""⟩ = some "2rem" := by
  have given : (ValueSpec.template "\x7b0\x7dpx").value? ⟨"", "2", "rem", "", ""⟩ {} =
      some "2px" := by
    decide +kernel
  refine ⟨?_, given, by decide +kernel⟩
  rw [PropertyTable.resolve_of_found entry?_outlineOffset, Entry.property, Entry.resolve, given]
  rfl

end UtilityCss.Utility
