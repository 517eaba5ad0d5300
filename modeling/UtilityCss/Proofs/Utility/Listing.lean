import UtilityCss.Proofs.Utility.Builtin

/-!
# What the listing utilities render

Twelve utilities list their declarations themselves and hold them as text. The text is one of the fixed
lists of properties of the utility with a value for each, and reading it gives the same properties with
their values trimmed; only blank values are dropped. A colon in a part of the token changes nothing. The
parts of tokens have no semicolons here.
-/
namespace UtilityCss.Utility

open PropertyTable

variable {utility : String} {t : Token} {context : Context} {ds : List Declaration}

/-- Reading keeps the property. -/
theorem Declaration.property_of_readBack? {d e : Declaration} (h : d.readBack? = some e) :
    e.property = d.property := by
  rw [readBack?] at h
  split at h
  · cases h
  · rw [← Option.some.inj h]

/-- Reading brings in no property, and keeps the order of those it leaves. -/
theorem properties_readBack_sublist (ds : List Declaration) :
    ((ds.filterMap Declaration.readBack?).map Declaration.property).Sublist
      (ds.map Declaration.property) := by
  induction ds with
  | nil => exact .slnil
  | cons d ds ih =>
    rw [List.map_cons, List.filterMap_cons]
    cases read : d.readBack? with
    | none => exact ih.cons _
    | some e =>
      rw [List.map_cons, Declaration.property_of_readBack? read]
      exact ih.cons_cons _

/-- A listing of a known shape is read back from its text. -/
theorem Shape.Describes.declarations_text {shape : Shape}
    {list : Token → Context → Option (List Declaration)} (describes : shape.Describes list)
    (oneItem : t.OneItem) (listed : list t context = some ds) :
    (Resolved.text (renderDeclarations ds)).declarations = ds.filterMap Declaration.readBack? :=
  parse_render ((describes.fits listed).printable oneItem)

/-- The utilities that list their declarations are those that have a shape. -/
theorem exists_listing_iff (utility : String) :
    (∃ list, builtinTable.entry? utility = some (.compute list)) ↔
      utility ∈ listingShapes.map Prod.fst := by
  constructor
  · rintro ⟨list, found⟩
    cases accounted_of_found found with
    | lists listed describes => exact List.mem_map.mpr ⟨_, mem_of_lookup_eq_some listed, rfl⟩
  · revert utility
    simp only [listingShapes, List.map_cons, List.map_nil, List.forall_mem_cons,
      entry?_builtinTable]
    exact ⟨⟨_, rfl⟩, ⟨_, rfl⟩, ⟨_, rfl⟩, ⟨_, rfl⟩, ⟨_, rfl⟩, ⟨_, rfl⟩, ⟨_, rfl⟩, ⟨_, rfl⟩,
      ⟨_, rfl⟩, ⟨_, rfl⟩, ⟨_, rfl⟩, ⟨_, rfl⟩, List.forall_mem_nil _⟩

/-- Twelve utilities list their declarations. What one of them renders sets the properties of one of its
forms in turn, and is read back with trimmed values, without the declarations whose value is blank. -/
theorem listed_declarations_are_read_back (utility : String) (t : Token) (context : Context)
    (oneItem : t.OneItem) :
    ((∃ list, builtinTable.entry? utility = some (.compute list)) ↔
      utility ∈ ["text", "font", "decoration", "border", "outline", "ring", "ring-offset", "shadow",
        "drop-shadow", "transition", "move-x", "move-y"]) ∧
    ∀ list, builtinTable.entry? utility = some (.compute list) →
      ∃ shape, listingShapes.lookup utility = some shape ∧
        ∀ r, builtinTable.resolve utility t context = some r →
          ∃ ds, list t context = some ds ∧
            ds.map Declaration.property ∈ shape.forms ∧
            r = .text ("; ".intercalate (ds.map fun d => d.property ++ ": " ++ d.value)) ∧
            r.declarations = ds.filterMap Declaration.readBack? ∧
            (r.declarations.map Declaration.property).Sublist (ds.map Declaration.property) := by
  refine ⟨exists_listing_iff utility, fun list found => ?_⟩
  cases accounted_of_found found with
  | @lists shape list listed describes =>
    refine ⟨shape, listed, fun r resolved => ?_⟩
    rw [resolve_of_found found, Entry.resolve, Option.map_eq_some_iff] at resolved
    obtain ⟨ds, made, rfl⟩ := resolved
    have read := describes.declarations_text oneItem made
    refine ⟨ds, made, (describes.fits made).form, rfl, read, ?_⟩
    rw [read]
    exact properties_readBack_sublist ds

/-- The width of a border with colons and blanks in its parts. -/
theorem listed_declarations_are_read_back_with_colons :
    Token.OneItem ⟨"x", "a: b", "", "\n c:d ", "é:"⟩ ∧
    ∃ r, builtinTable.resolve "border" ⟨"x", "a: b", "", "\n c:d ", "é:"⟩ {} = some r ∧
      r.declarations = [⟨"border-style", "c:d"⟩, ⟨"border-inline-width", "a: b"⟩] := by
  have oneItem : Token.OneItem ⟨"x", "a: b", "", "\n c:d ", "é:"⟩ := by decide
  obtain ⟨isListed, readBack⟩ :=
    listed_declarations_are_read_back "border" ⟨"x", "a: b", "", "\n c:d ", "é:"⟩ {} oneItem
  have found : builtinTable.entry? "border" = some border := by
    rw [entry?_builtinTable]
    rfl
  have resolved : builtinTable.resolve "border" ⟨"x", "a: b", "", "\n c:d ", "é:"⟩ {} = some _ :=
    resolve_of_found found
  obtain ⟨shape, -, each⟩ := readBack _ found
  obtain ⟨ds, made, -, -, read, -⟩ := each _ resolved
  refine ⟨oneItem, _, resolved, ?_⟩
  rw [read]
  have listed : ds = borderLine.declarations ⟨"x", "a: b", "", "\n c:d ", "é:"⟩ {} :=
    (Option.some.inj made).symm
  rw [listed]
  decide +kernel

end UtilityCss.Utility
