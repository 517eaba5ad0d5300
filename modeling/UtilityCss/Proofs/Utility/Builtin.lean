import UtilityCss.Proofs.Utility.Line
import UtilityCss.Proofs.Utility.Motion
import UtilityCss.Proofs.Utility.Shadow
import UtilityCss.Proofs.Utility.Table
import UtilityCss.Proofs.Utility.Typography

/-!
# The inventory of built-in utilities

Every built-in utility either gives one value to at least one property, or lists its declarations in a
known shape.
-/
namespace UtilityCss.Utility

/-- The utilities that list their declarations, with the shapes of these. -/
def listingShapes : List (String × Shape) :=
  [("text", textShape), ("font", fontShape), ("decoration", decorationShape),
   ("border", borderLine.shape borderLine_named), ("outline", outlineLine.shape outlineLine_named),
   ("ring", ringShape), ("ring-offset", ringOffsetShape), ("shadow", shadowShape),
   ("drop-shadow", dropShadowShape), ("transition", transitionShape),
   ("move-x", moveShape "x" (by decide)), ("move-y", moveShape "y" (by decide))]

/-- An entry sets some properties, or lists declarations of the shape that its utility has. -/
inductive Accounted (utility : String) : Entry → Prop where
  | declares {property : PropertySpec} {value : ValueSpec}
      (names : ∀ t context, property.names t context ≠ []) :
      Accounted utility (.declare property value)
  | lists {shape : Shape} {list : Token → Context → Option (List Declaration)}
      (listed : listingShapes.lookup utility = some shape) (describes : shape.Describes list) :
      Accounted utility (.compute list)

theorem accounted_fixed {utility name : String} {names : List String} {value : ValueSpec} :
    Accounted utility (.declare (.fixed (name :: names)) value) :=
  .declares fun _ _ => List.cons_ne_nil name names

theorem accounted_directional {utility : String} {base : List String}
    {keys : List (String × List String)} {value : ValueSpec} (hbase : base ≠ [])
    (hkeys : ∀ key ∈ keys, key.2 ≠ []) :
    Accounted utility (.declare (.directional base keys) value) :=
  .declares fun t _ => @of_lookup_getD _ (· ≠ []) keys t.key base hkeys hbase

theorem accounted_background {utility : String} : Accounted utility background :=
  .declares fun t _ => List.cons_ne_nil (backgroundProperty t) []

/-! ## Listings -/

/-- Some utilities list declarations for every token. -/
theorem Shape.describes_some {shape : Shape} {list : Token → Context → List Declaration}
    (fits : ∀ {t context}, shape.Fits t (list t context))
    (empty : ∀ {t context}, ¬ shape.Fed t → ∀ d ∈ list t context, d.value = "") :
    shape.Describes fun t context => some (list t context) where
  fits := by
    rintro t context ds ⟨⟩
    exact fits
  empty := by
    rintro t context ds ⟨⟩
    exact empty

theorem Shape.describes_some_of_fits {shape : Shape} {list : Token → Context → List Declaration}
    (noBareKeys : shape.bareKeys = []) (fits : ∀ {t context}, shape.Fits t (list t context)) :
    shape.Describes fun t context => some (list t context) :=
  Shape.describes_of_fits noBareKeys (by
    rintro t context ds ⟨⟩
    exact fits)

theorem accounted_line {utility : String} {family : LineFamily} (named : family.Named)
    (listed : listingShapes.lookup utility = some (family.shape named)) :
    Accounted utility (.compute fun t context => some (family.declarations t context)) :=
  .lists listed (Shape.describes_some (LineFamily.fits named) (LineFamily.empty_of_not_fed named))

theorem accounted_dropShadow : Accounted "drop-shadow" dropShadow :=
  .lists rfl (Shape.describes_some fits_dropShadow dropShadow_empty_of_not_fed)

/-! ## All tables -/

/-- Every entry of every built-in table is accounted for. -/
theorem accounted_of_mem_builtinTables :
    ∀ table ∈ builtinTables, ∀ item ∈ table.entries, Accounted item.1 item.2 := by
  simp only [builtinTables, List.forall_mem_cons]
  refine ⟨?defaults, ?sizing, ?filters, ?spacing, ?background, ?typography, ?borders, ?effects,
    ?transitions, ?transforms, nofun⟩
  case defaults =>
    refine List.forall_mem_append.mpr ⟨?_, ?_⟩
    · exact List.forall_mem_map.mpr fun item _ => accounted_fixed
    · simp only [templateEntries, List.forall_mem_cons]
      exact ⟨accounted_fixed, accounted_fixed, accounted_fixed, accounted_fixed, accounted_fixed,
        accounted_fixed, accounted_fixed, accounted_fixed, nofun⟩
  case sizing =>
    refine List.forall_mem_append.mpr ⟨?_, ?_⟩
    · exact List.forall_mem_map.mpr fun item _ => accounted_fixed
    · exact List.forall_mem_singleton.mpr accounted_fixed
  case filters =>
    refine List.forall_mem_append.mpr ⟨?_, ?_⟩
    · simp only [List.forall_mem_cons]
      exact ⟨accounted_fixed, accounted_fixed, accounted_dropShadow, accounted_fixed, nofun⟩
    · refine List.forall_mem_flatMap.mpr fun f _ => ?_
      simp only [filterEntries, List.forall_mem_cons]
      exact ⟨accounted_fixed, accounted_fixed, nofun⟩
  case spacing =>
    exact ⟨accounted_directional (by decide) (by decide),
      accounted_directional (by decide) (by decide), accounted_fixed,
      accounted_directional (by decide) (by decide),
      accounted_directional (by decide) (by decide), nofun⟩
  case background =>
    exact ⟨accounted_background, accounted_fixed, accounted_fixed, nofun⟩
  case typography =>
    exact ⟨.lists rfl (Shape.describes_of_fits rfl fits_text),
      .lists rfl (Shape.describes_of_fits rfl fits_font), accounted_fixed, accounted_fixed,
      .lists rfl (Shape.describes_of_fits rfl fits_decoration), accounted_fixed, accounted_fixed,
      nofun⟩
  case borders =>
    exact ⟨accounted_directional (by decide) (by decide), accounted_line borderLine_named rfl,
      accounted_line outlineLine_named rfl, .lists rfl (Shape.describes_some_of_fits rfl fits_ring),
      .lists rfl (Shape.describes_some_of_fits rfl fits_ringOffset), nofun⟩
  case effects =>
    exact ⟨.lists rfl (Shape.describes_some_of_fits rfl fits_shadow), nofun⟩
  case transitions =>
    exact ⟨.lists rfl (Shape.describes_of_fits rfl fits_transition), accounted_fixed,
      accounted_fixed, accounted_fixed, nofun⟩
  case transforms =>
    exact ⟨accounted_fixed, .lists rfl (Shape.describes_of_fits rfl (fits_axis _)),
      .lists rfl (Shape.describes_of_fits rfl (fits_axis _)), nofun⟩

theorem accounted_of_found {utility : String} {e : Entry}
    (found : builtinTable.entry? utility = some e) : Accounted utility e :=
  holds_of_found Accounted accounted_of_mem_builtinTables found

end UtilityCss.Utility
