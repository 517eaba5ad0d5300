import UtilityCss.Proofs.Utility.Declaration
import UtilityCss.Proofs.Utility.Value

/-!
# Shapes of listed declarations

A utility that lists its declarations sets one of a few fixed lists of properties. Its shape names these
lists, and the keys that select something even if there is no value. Declarations that fit are read
back with the same properties, and only an absent value under such a key can leave nothing of them.
-/
namespace UtilityCss.Utility

open UtilityCss.Text

/-- A property name with nothing in it that ends an item or a name. -/
def IsPropertyName (p : String) : Prop :=
  p ≠ "" ∧ Trimmed isCssBlank p.toList ∧ ':' ∉ p.toList ∧ ';' ∉ p.toList

instance decidableIsPropertyName (p : String) : Decidable (IsPropertyName p) :=
  inferInstanceAs (Decidable (_ ∧ _ ∧ _ ∧ _))

theorem Declaration.Printable.of_name {d : Declaration} (name : IsPropertyName d.property)
    (oneItem : OneItem d.value) : d.Printable where
  named := name.1
  trimmed := name.2.1
  oneName := name.2.2.1
  oneItem := by
    simp only [toList_text, List.mem_append, List.mem_cons, not_or]
    exact ⟨name.2.2.2, by decide, by decide, oneItem⟩

/-- What a utility that lists its declarations may set. -/
structure Shape where
  /-- The properties, in turn, of each form that the declarations can take. -/
  forms : List (List String)
  /-- The keys that select a form even without a value. -/
  bareKeys : List String := []
  named : ∀ form ∈ forms, ∀ p ∈ form, IsPropertyName p

/-- The token gives the shape something to show. -/
def Shape.Fed (shape : Shape) (t : Token) : Prop := t.value ≠ "" ∨ t.key ∉ shape.bareKeys

theorem Shape.not_fed_iff {shape : Shape} {t : Token} :
    ¬ shape.Fed t ↔ t.value = "" ∧ t.key ∈ shape.bareKeys := by
  rw [Fed, not_or, Decidable.not_not, Decidable.not_not]

/-- The declarations have one of the forms of the shape. Values are made of the token: they stay inside
their items if its parts do, and one can be seen if the token feeds the shape. -/
structure Shape.Fits (shape : Shape) (t : Token) (ds : List Declaration) : Prop where
  form : ds.map Declaration.property ∈ shape.forms
  oneItem : t.OneItem → ∀ d ∈ ds, OneItem d.value
  visible : t.Unbroken → shape.Fed t → ∃ d ∈ ds, Visible d.value

section
variable {shape : Shape} {t : Token} {context : Context} {p q v w : String}

theorem Shape.fits_one (form : [p] ∈ shape.forms) (oneItem : t.OneItem → OneItem v)
    (visible : t.Unbroken → shape.Fed t → Visible v) : shape.Fits t [⟨p, v⟩] where
  form := form
  oneItem h := by
    intro d hd
    rw [List.mem_singleton.mp hd]
    exact oneItem h
  visible h fed := ⟨_, List.mem_singleton_self _, visible h fed⟩

theorem Shape.fits_two (form : [p, q] ∈ shape.forms) (first : t.OneItem → OneItem v)
    (second : t.OneItem → OneItem w)
    (visible : t.Unbroken → shape.Fed t → Visible v ∨ Visible w) :
    shape.Fits t [⟨p, v⟩, ⟨q, w⟩] where
  form := form
  oneItem h := by
    intro d hd
    rcases List.mem_cons.mp hd with rfl | hd
    · exact first h
    · rw [List.mem_singleton.mp hd]
      exact second h
  visible h fed := by
    rcases visible h fed with seen | seen
    · exact ⟨_, List.mem_cons_self, seen⟩
    · exact ⟨_, List.mem_cons_of_mem _ (List.mem_singleton_self _), seen⟩

/-- The value itself under a property. -/
theorem Shape.fits_value (form : [p] ∈ shape.forms)
    (present : t.value ≠ "") : shape.Fits t [⟨p, t.value⟩] :=
  Shape.fits_one form Token.OneItem.value fun unbroken _ => unbroken.value present

/-- A color with its opacity under a property. -/
theorem Shape.fits_colorValue (form : [p] ∈ shape.forms)
    (present : t.value ≠ "") : shape.Fits t [⟨p, colorValue t context⟩] :=
  Shape.fits_one form (oneItem_colorValue context) fun unbroken _ =>
    visible_colorValue context unbroken present

end

/-! ## Reading back -/

variable {shape : Shape} {t : Token} {ds : List Declaration}

theorem Shape.Fits.printable (h : shape.Fits t ds) (oneItem : t.OneItem) :
    ∀ d ∈ ds, d.Printable := by
  intro d hd
  have named := shape.named _ h.form d.property (List.mem_map_of_mem hd)
  exact .of_name named (h.oneItem oneItem d hd)

/-- Whatever a utility lists has the shape, and without something to show all of it is empty. -/
structure Shape.Describes (shape : Shape)
    (list : Token → Context → Option (List Declaration)) : Prop where
  fits {t : Token} {context : Context} {ds : List Declaration} :
    list t context = some ds → shape.Fits t ds
  empty {t : Token} {context : Context} {ds : List Declaration} :
    list t context = some ds → ¬ shape.Fed t → ∀ d ∈ ds, d.value = ""

variable {list : Token → Context → Option (List Declaration)} {context : Context}

/-- A shape without bare keys is fed by every token. -/
theorem Shape.describes_of_fits (noBareKeys : shape.bareKeys = [])
    (fits : ∀ {t context ds}, list t context = some ds → shape.Fits t ds) :
    shape.Describes list where
  fits := fits
  empty _ starved := by
    refine absurd (Or.inr ?_) starved
    simp [noBareKeys]

/-- Listed declarations are read back as nothing exactly when the token has nothing to show. -/
theorem Shape.Describes.parse_eq_nil_iff (h : shape.Describes list)
    (listed : list t context = some ds) (oneItem : t.OneItem) (unbroken : t.Unbroken) :
    parseDeclarations (renderDeclarations ds) = [] ↔ ¬ shape.Fed t := by
  have fits := h.fits listed
  rw [parse_render_eq_nil_iff (fits.printable oneItem)]
  constructor
  · intro blank fed
    obtain ⟨d, hd, c, hc, seen⟩ := fits.visible unbroken fed
    have blank := blank d hd c hc
    rw [seen] at blank
    cases blank
  · intro starved d hd c hc
    rw [h.empty listed starved d hd] at hc
    cases hc

end UtilityCss.Utility
