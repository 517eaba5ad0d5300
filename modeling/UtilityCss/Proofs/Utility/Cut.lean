import Mathlib.Data.List.Nodup
import UtilityCss.Proofs.Utility.Template

/-!
# Values that were cut

A text that begins with a number arrives in two parts, the number as value and the rest as unit. A value
that is passed on or measured does not show where it was cut. A table of names is searched for the
value alone: a name that was cut is not found, and a name with a unit behind it is taken for the name
itself. In the tables of the built-in utilities each of these can be seen.
-/
namespace UtilityCss.Utility

open UtilityCss.Value PropertyTable

/-- The token whose value was not cut. -/
def Token.uncut (t : Token) : Token := { t with value := t.joined, unit := "" }

/-- The name has a meaning of its own. -/
def Aliases.Names (aliases : Aliases) (name : String) : Prop := (aliases.lookup name).isSome

instance decidableNames (aliases : Aliases) (name : String) : Decidable (aliases.Names name) :=
  inferInstanceAs (Decidable (_ = true))

/-- What a whole text stands for: a name for its meaning, anything else for itself. -/
def Aliases.meaning (aliases : Aliases) (text : String) : String :=
  (aliases.lookup text).getD text

/-- Where the value is cut makes a difference. -/
inductive CutMatters (aliases : Aliases) (t : Token) : Prop where
  /-- The part before the cut is a name, and the whole text does not stand for the same. -/
  | dropsUnit {meaning : String} (name : aliases.lookup t.value = some meaning)
      (other : aliases.meaning t.joined ≠ meaning)
  /-- Only the whole text is a name. -/
  | missesName {meaning : String} (unnamed : aliases.lookup t.value = none)
      (name : aliases.lookup t.joined = some meaning) (other : t.joined ≠ meaning)

variable {aliases : Aliases} {t : Token} {context : Context} {value unit : String}

/-- Without a unit there is no cut. -/
theorem CutMatters.unit_ne_empty (h : CutMatters aliases t) : t.unit ≠ "" := by
  intro uncut
  have joined := Token.joined_of_unitless uncut
  cases h with
  | dropsUnit name other => exact other (by rw [joined, Aliases.meaning, name, Option.getD_some])
  | missesName unnamed name _ =>
    rw [joined, unnamed] at name
    cases name

theorem joined_uncut (t : Token) : t.uncut.joined = t.joined := String.append_empty

/-! ## Measured values -/

/-- Only a zero that is not cut is a zero. -/
theorem append_eq_zero_iff (present : value ≠ "") : value ++ unit = "0" ↔ value = "0" ∧ unit = "" := by
  constructor
  · intro whole
    have parts : value.toList ++ unit.toList = ['0'] := by
      rw [← String.toList_append, whole]
      rfl
    rcases List.append_eq_singleton_iff.mp parts with ⟨absent, -⟩ | ⟨zero, absent⟩
    · exact absurd (String.toList_eq_nil_iff.mp absent) present
    · exact ⟨String.toList_injective zero, String.toList_eq_nil_iff.mp absent⟩
  · rintro ⟨rfl, rfl⟩
    rfl

theorem scaleSizing_append (sizing : Float) (present : value ≠ "") :
    scaleSizing (value ++ unit) "" sizing = scaleSizing value unit sizing := by
  have zero : (value ++ unit == "0" && "".isEmpty) = (value == "0" && unit.isEmpty) := by
    rw [Bool.eq_iff_iff]
    simpa using append_eq_zero_iff present
  rw [scaleSizing, scaleSizing, zero, String.append_empty]

/-! ## Named values -/

theorem alias_of_present (aliases : Aliases) (context : Context) (present : t.value ≠ "") :
    (ValueSpec.alias aliases).value? t context = some ((aliases.lookup t.value).getD t.joined) := by
  rw [ValueSpec.value?, nonEmpty?_of_ne (Token.joined_ne_empty present)]
  cases aliases.lookup t.value <;> rfl

theorem alias_uncut (aliases : Aliases) (context : Context) (present : t.value ≠ "") :
    (ValueSpec.alias aliases).value? t.uncut context = some (aliases.meaning t.joined) := by
  have whole : t.uncut.value ≠ "" := Token.joined_ne_empty present
  rw [alias_of_present aliases context whole, joined_uncut]
  rfl

/-- The cut can be seen exactly where it matters. -/
theorem alias_eq_iff (aliases : Aliases) (context : Context) (present : t.value ≠ "") :
    (ValueSpec.alias aliases).value? t.uncut context = (ValueSpec.alias aliases).value? t context ↔
      ¬ CutMatters aliases t := by
  rw [alias_uncut aliases context present, alias_of_present aliases context present,
    Option.some.injEq]
  cases part : aliases.lookup t.value with
  | some meaning =>
    rw [Option.getD_some]
    constructor
    · rintro same (⟨name, other⟩ | ⟨unnamed, -, -⟩)
      · rw [part, Option.some.injEq] at name
        exact other (same.trans name)
      · rw [part] at unnamed
        cases unnamed
    · intro harmless
      by_contra other
      exact harmless (.dropsUnit part other)
  | none =>
    rw [Option.getD_none]
    constructor
    · rintro same (⟨name, -⟩ | ⟨-, name, other⟩)
      · rw [part] at name
        cases name
      · rw [Aliases.meaning, name, Option.getD_some] at same
        exact other same.symm
    · intro harmless
      cases whole : aliases.lookup t.joined with
      | none => rw [Aliases.meaning, whole, Option.getD_none]
      | some meaning =>
        rw [Aliases.meaning, whole, Option.getD_some]
        by_contra other
        exact harmless (.missesName part whole (Ne.symm other))

/-! ## The tables of built-in utilities -/

/-- The names that an entry looks its value up among. -/
def Entry.aliases? : Entry → Option Aliases
  | .declare _ (.alias aliases) => some aliases
  | _ => none

/-- The names of corners, of letter spacings and of easings. -/
def builtinAliases : List Aliases := [radiusSizes, letterSpacing, easings]

/-- No name begins its own meaning, and no two names mean the same. -/
structure Aliases.Discerning (aliases : Aliases) : Prop where
  foreign : ∀ e ∈ aliases, ¬ e.1.toList <+: e.2.toList
  distinct : (aliases.map Prod.snd).Nodup

/-- A text that goes on behind a name does not stand for what the name means. -/
theorem Aliases.Discerning.meaning_ne (h : aliases.Discerning) {name meaning : String}
    (found : aliases.lookup name = some meaning) (longer : unit ≠ "") :
    aliases.meaning (name ++ unit) ≠ meaning := by
  intro same
  cases whole : aliases.lookup (name ++ unit) with
  | none =>
    -- The whole text stands for itself, and the name begins it.
    rw [Aliases.meaning, whole, Option.getD_none] at same
    refine h.foreign (name, meaning) (mem_of_lookup_eq_some found) ?_
    rw [← same, String.toList_append]
    exact List.prefix_append _ _
  | some other =>
    rw [Aliases.meaning, whole, Option.getD_some] at same
    subst same
    have one := List.inj_on_of_nodup_map h.distinct (mem_of_lookup_eq_some whole)
      (mem_of_lookup_eq_some found) rfl
    have names : name ++ unit = name := congrArg Prod.fst one
    exact longer (by simpa using names)

theorem Aliases.Discerning.cutMatters_iff (h : aliases.Discerning) :
    CutMatters aliases t ↔ t.unit ≠ "" ∧ (aliases.Names t.value ∨ aliases.Names t.joined) := by
  constructor
  · intro matters
    have cut : t.unit ≠ "" := matters.unit_ne_empty
    cases matters with
    | dropsUnit name _ => exact ⟨cut, Or.inl (Option.isSome_of_eq_some name)⟩
    | missesName _ name _ => exact ⟨cut, Or.inr (Option.isSome_of_eq_some name)⟩
  · rintro ⟨cut, named⟩
    cases part : aliases.lookup t.value with
    | some meaning => exact .dropsUnit part (h.meaning_ne part cut)
    | none =>
      have unnamed : ¬ aliases.Names t.value := by simp [Aliases.Names, part]
      obtain ⟨meaning, whole⟩ := Option.isSome_iff_exists.mp (named.resolve_left unnamed)
      refine .missesName part whole fun same => ?_
      refine h.foreign (t.joined, meaning) (mem_of_lookup_eq_some whole) ?_
      rw [← same]

theorem discerning_of_mem_builtinAliases : ∀ aliases ∈ builtinAliases, aliases.Discerning := by
  simp only [builtinAliases, List.forall_mem_cons]
  exact ⟨⟨by decide, by decide⟩, ⟨by decide, by decide⟩, ⟨by decide, by decide⟩,
    List.forall_mem_nil _⟩

/-- No other tables of names are used. -/
theorem aliases?_of_mem_builtinTables :
    ∀ table ∈ builtinTables, ∀ item ∈ table.entries,
      item.2.aliases?.all builtinAliases.contains = true := by
  decide +kernel

/-- Every table of names in a built-in utility can tell where a value was cut. -/
theorem discerning_of_found {utility : String} {e : Entry}
    (found : builtinTable.entry? utility = some e) (named : e.aliases? = some aliases) :
    aliases.Discerning := by
  have known := holds_of_found (fun _ e => e.aliases?.all builtinAliases.contains = true)
    aliases?_of_mem_builtinTables found
  rw [named, Option.all_some, List.contains_iff_mem] at known
  exact discerning_of_mem_builtinAliases aliases known

/-- Where a value is cut makes no difference if it is passed on or measured. Where it is looked up among
names, it makes one exactly if the part before the cut or only the whole text is a name, and this changes
the meaning; in the built-in utilities it always does. -/
theorem value_ignores_cut_iff (t : Token) (context : Context) (present : t.value ≠ "") :
    ValueSpec.raw.value? t.uncut context = ValueSpec.raw.value? t context ∧
    (∀ tables, (ValueSpec.sizing tables).value? t.uncut context =
      (ValueSpec.sizing tables).value? t context) ∧
    (∀ aliases, (ValueSpec.alias aliases).value? t.uncut context =
      (ValueSpec.alias aliases).value? t context ↔ ¬ CutMatters aliases t) ∧
    ∀ utility property aliases,
      builtinTable.entry? utility = some (.declare property (.alias aliases)) →
      (CutMatters aliases t ↔ t.unit ≠ "" ∧ (aliases.Names t.value ∨ aliases.Names t.joined)) := by
  refine ⟨?passed, ?measured, ?named, ?builtin⟩
  case passed => rw [ValueSpec.value?, ValueSpec.value?, joined_uncut]
  case measured =>
    intro tables
    have length : scaleSizing t.uncut.value t.uncut.unit context.sizing =
        scaleSizing t.value t.unit context.sizing := scaleSizing_append context.sizing present
    rw [ValueSpec.value?, ValueSpec.value?, joined_uncut, length]
  case named => exact fun aliases => alias_eq_iff aliases context present
  case builtin =>
    intro utility property aliases found
    exact (discerning_of_found found rfl).cutMatters_iff

theorem entry?_radius : builtinTable.entry? "radius" = some radius := by
  rw [entry?_builtinTable]
  rfl

/-- The radius of a corner in pixels is no name, cut or not. -/
theorem value_ignores_cut_of_length :
    Token.value ⟨"", "4", "px", "", ""⟩ ≠ "" ∧ ¬ CutMatters radiusSizes ⟨"", "4", "px", "", ""⟩ ∧
    (ValueSpec.alias radiusSizes).value? (Token.uncut ⟨"", "4", "px", "", ""⟩) {} =
      (ValueSpec.alias radiusSizes).value? ⟨"", "4", "px", "", ""⟩ {} := by
  have present : Token.value ⟨"", "4", "px", "", ""⟩ ≠ "" := by decide
  obtain ⟨-, -, named, builtin⟩ := value_ignores_cut_iff ⟨"", "4", "px", "", ""⟩ {} present
  have kept : ¬ CutMatters radiusSizes ⟨"", "4", "px", "", ""⟩ := by
    rw [builtin "radius" _ radiusSizes entry?_radius]
    decide
  exact ⟨present, kept, (named radiusSizes).mpr kept⟩

/-- A named size that begins with a number is not found once it is cut, and a name with a unit behind it
is taken for the name. -/
theorem radius_depends_on_cut :
    builtinTable.resolve "radius" ⟨"", "2xl", "", "", ""⟩ {} =
      some (.properties ["borderRadius"] "1rem") ∧
    builtinTable.resolve "radius" ⟨"", "2", "xl", "", ""⟩ {} =
      some (.properties ["borderRadius"] "2xl") ∧
    builtinTable.resolve "radius" ⟨"", "mdpx", "", "", ""⟩ {} =
      some (.properties ["borderRadius"] "mdpx") ∧
    builtinTable.resolve "radius" ⟨"", "md", "px", "", ""⟩ {} =
      some (.properties ["borderRadius"] "0.375rem") := by
  simp only [resolve_of_found entry?_radius]
  decide +kernel

end UtilityCss.Utility
