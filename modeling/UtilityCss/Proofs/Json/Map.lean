import UtilityCss.Json.Document
import UtilityCss.Json.Record
import UtilityCss.Proofs.Json.Text

/-!
# Which texts the JSON reader accepts for maps of strings

A map is written by its members in turn, with a colon inside each and commas between them, and blanks may
stand anywhere but inside a string. The reader accepts exactly the texts that write a map of strings, and
lists each member as often as it is written. The steps that the reader is given are always enough.
-/
namespace UtilityCss.Json

variable {cs r : List Char}

/-! ## Members -/

/-- A member of a map, behind the opening quote of its name: the name, a colon and a text. -/
inductive WritesMember : List Char → String × String → List Char → Prop where
  | pair {cs afterName value text r : List Char} {key content : String}
      (named : Spells cs key.toList afterName) (colon : AfterBlanks afterName (':' :: value))
      (opened : AfterBlanks value ('"' :: text)) (valued : Spells text content.toList r) :
      WritesMember cs (key, content) r

/-- Further members behind commas, and the closing bracket. -/
inductive WritesMore : List Char → List (String × String) → List Char → Prop where
  | closed {cs r : List Char} (bracket : AfterBlanks cs ('\x7d' :: r)) : WritesMore cs [] r
  | member {cs ds name es r : List Char} {member : String × String}
      {members : List (String × String)} (comma : AfterBlanks cs (',' :: ds))
      (opened : AfterBlanks ds ('"' :: name)) (first : WritesMember name member es)
      (more : WritesMore es members r) : WritesMore cs (member :: members) r

/-- The members of a map behind its opening bracket, and the closing one. -/
inductive WritesMembers : List Char → List (String × String) → List Char → Prop where
  | closed {cs r : List Char} (bracket : AfterBlanks cs ('\x7d' :: r)) : WritesMembers cs [] r
  | member {cs name ds r : List Char} {member : String × String} {members : List (String × String)}
      (opened : AfterBlanks cs ('"' :: name)) (first : WritesMember name member ds)
      (more : WritesMore ds members r) : WritesMembers cs (member :: members) r

/-- The text is a map of strings with the members, each as often as it is written. -/
def WritesMap (cs : List Char) (members : List (String × String)) (rest : List Char) : Prop :=
  ∃ body, AfterBlanks cs ('\x7b' :: body) ∧ WritesMembers body members rest

/-! ## Progress -/

theorem WritesMember.length_lt {member : String × String} (h : WritesMember cs member r) :
    r.length < cs.length := by
  cases h with
  | pair named colon opened valued =>
    have name := named.length_lt
    have value := colon.length_le
    have text := opened.length_le
    have rest := valued.length_lt
    simp only [List.length_cons] at value text
    omega

/-! ## The reader of maps -/

/-- A string is read as a whole; no other value begins with a quote. -/
theorem read_eq_string_iff {s : String} :
    Item.read cs = .ok (.string s, r) ↔ ∃ body, cs = '"' :: body ∧ Spells body s.toList r := by
  constructor
  · intro read
    unfold Item.read at read
    split at read
    · cases read
    · split at read
      case h_4 =>
        obtain ⟨p, body, same⟩ := map_eq_ok_iff.mp read
        cases same
        exact ⟨_, rfl, stringBody_eq_ok_iff.mp body⟩
      case h_7 =>
        split at read
        · obtain ⟨p, -, other⟩ := map_eq_ok_iff.mp read
          cases other
        · cases read
      case h_5 => cases read
      case h_6 => cases read
      all_goals
        obtain ⟨p, -, other⟩ := map_eq_ok_iff.mp read
        cases other
  · rintro ⟨body, rfl, spelled⟩
    exact map_eq_ok_iff.mpr ⟨(s, r), stringBody_eq_ok_iff.mpr spelled, rfl⟩

theorem string_eq_ok_iff {s : String} :
    string cs = .ok (s, r) ↔ ∃ body, AfterBlanks cs ('"' :: body) ∧ Spells body s.toList r := by
  constructor
  · intro read
    obtain ⟨⟨item, rest⟩, found, valued⟩ := bind_eq_ok_iff.mp read
    cases item with
    | string content =>
      cases valued
      obtain ⟨body, opened, spelled⟩ := read_eq_string_iff.mp found
      exact ⟨body, (skipBlank_eq_cons_iff (by decide)).mp opened, spelled⟩
    | null => cases valued
    | boolean => cases valued
    | number => cases valued
    | list => cases valued
    | record => cases valued
  · rintro ⟨body, opened, spelled⟩
    have skipped := (skipBlank_eq_cons_iff (by decide)).mpr opened
    exact bind_eq_ok_iff.mpr ⟨_, read_eq_string_iff.mpr ⟨body, skipped, spelled⟩, rfl⟩

theorem expectColon_eq_ok_iff : expectColon cs = .ok r ↔ AfterBlanks cs (':' :: r) := by
  rw [← skipBlank_eq_cons_iff (by decide)]
  constructor
  · intro read
    unfold expectColon at read
    split at read
    · cases read
    · next found =>
      cases read
      exact found
    · cases read
  · intro found
    simp only [expectColon, found]

theorem nextKey_eq_closed_iff {first : Bool} :
    nextKey first cs = .ok (.closed r) ↔ AfterBlanks cs ('\x7d' :: r) := by
  rw [← skipBlank_eq_cons_iff (by decide)]
  constructor
  · intro went
    unfold nextKey at went
    split at went
    case h_2 found =>
      cases went
      exact found
    case h_3 => split at went <;> cases went
    case h_4 =>
      split at went
      · cases went
      · split at went <;> cases went
    all_goals cases went
  · intro found
    simp only [nextKey, found]

theorem nextKey_first_eq_entry_iff :
    nextKey true cs = .ok (.entry r) ↔ AfterBlanks cs ('"' :: r) := by
  rw [← skipBlank_eq_cons_iff (by decide)]
  constructor
  · intro went
    unfold nextKey at went
    split at went
    case h_3 found =>
      cases went
      exact found
    all_goals cases went
  · intro found
    simp only [nextKey, found, if_true]

theorem nextKey_later_eq_entry_iff :
    nextKey false cs = .ok (.entry r) ↔
      ∃ ds, AfterBlanks cs (',' :: ds) ∧ AfterBlanks ds ('"' :: r) := by
  constructor
  · intro went
    unfold nextKey at went
    split at went
    case h_4 ds comma =>
      rw [if_neg Bool.false_ne_true] at went
      split at went
      case h_2 found =>
        cases went
        exact ⟨ds, (skipBlank_eq_cons_iff (by decide)).mp comma,
          (skipBlank_eq_cons_iff (by decide)).mp found⟩
      all_goals cases went
    all_goals cases went
  · rintro ⟨ds, comma, opened⟩
    have first := (skipBlank_eq_cons_iff (by decide)).mpr comma
    have second := (skipBlank_eq_cons_iff (by decide)).mpr opened
    simp only [nextKey, first, second, Bool.false_eq_true, if_false]

variable {members : List (String × String)}

/-- One step of the reader closes the map or reads a member and goes on. -/
theorem mapEntries_eq_ok_iff {steps : Nat} {first : Bool} :
    mapEntries string (steps + 1) first cs = .ok (members, r) ↔
      (nextKey first cs = .ok (.closed r) ∧ members = []) ∨
      ∃ name member ds others, nextKey first cs = .ok (.entry name) ∧ WritesMember name member ds ∧
        mapEntries string steps false ds = .ok (others, r) ∧ members = member :: others := by
  rw [mapEntries, bind_eq_ok_iff]
  constructor
  · rintro ⟨onward, went, read⟩
    cases onward with
    | closed rest =>
      cases read
      exact Or.inl ⟨went, rfl⟩
    | entry name =>
      obtain ⟨⟨key, afterName⟩, named, read⟩ := bind_eq_ok_iff.mp read
      obtain ⟨value, colon, read⟩ := bind_eq_ok_iff.mp read
      obtain ⟨⟨content, ds⟩, valued, read⟩ := bind_eq_ok_iff.mp read
      obtain ⟨⟨others, rest⟩, more, read⟩ := bind_eq_ok_iff.mp read
      cases read
      obtain ⟨text, opened, valued⟩ := string_eq_ok_iff.mp valued
      exact Or.inr ⟨name, (key, content), ds, others, went, .pair (stringBody_eq_ok_iff.mp named)
        (expectColon_eq_ok_iff.mp colon) opened valued, more, rfl⟩
  · rintro (⟨went, rfl⟩ | ⟨name, member, ds, others, went, written, more, rfl⟩)
    · exact ⟨_, went, rfl⟩
    · cases written with
      | pair named colon opened valued =>
        refine ⟨_, went, bind_eq_ok_iff.mpr ⟨_, stringBody_eq_ok_iff.mpr named, ?_⟩⟩
        refine bind_eq_ok_iff.mpr ⟨_, expectColon_eq_ok_iff.mpr colon, ?_⟩
        refine bind_eq_ok_iff.mpr ⟨_, string_eq_ok_iff.mpr ⟨_, opened, valued⟩, ?_⟩
        exact bind_eq_ok_iff.mpr ⟨_, more, rfl⟩

/-- Behind the first member the reader accepts what the grammar does, if it may make enough steps. -/
theorem mapEntries_later_eq_ok_iff {steps : Nat} (enough : cs.length < steps) :
    mapEntries string steps false cs = .ok (members, r) ↔ WritesMore cs members r := by
  induction steps generalizing cs members with
  | zero => omega
  | succ steps ih =>
    -- A member is passed before the reader goes on, so fewer steps are enough for the rest.
    have shorter {ds name es : List Char} {member : String × String} (comma : AfterBlanks cs (',' :: ds))
        (opened : AfterBlanks ds ('"' :: name)) (first : WritesMember name member es) :
        es.length < steps := by
      have behind := comma.length_le
      have inside := opened.length_le
      have passed := first.length_lt
      simp only [List.length_cons] at behind inside
      omega
    rw [mapEntries_eq_ok_iff]
    constructor
    · rintro (⟨went, rfl⟩ | ⟨name, member, es, others, went, first, more, rfl⟩)
      · exact .closed (nextKey_eq_closed_iff.mp went)
      · obtain ⟨ds, comma, opened⟩ := nextKey_later_eq_entry_iff.mp went
        exact .member comma opened first ((ih (shorter comma opened first)).mp more)
    · intro written
      cases written with
      | closed bracket => exact Or.inl ⟨nextKey_eq_closed_iff.mpr bracket, rfl⟩
      | @member _ ds name es _ member others comma opened first more =>
        exact Or.inr ⟨name, member, es, others, nextKey_later_eq_entry_iff.mpr ⟨ds, comma, opened⟩,
          first, (ih (shorter comma opened first)).mpr more, rfl⟩

theorem mapEntries_first_eq_ok_iff :
    mapEntries string (cs.length + 1) true cs = .ok (members, r) ↔ WritesMembers cs members r := by
  have shorter {name ds : List Char} {member : String × String} (opened : AfterBlanks cs ('"' :: name))
      (first : WritesMember name member ds) : ds.length < cs.length := by
    have inside := opened.length_le
    have passed := first.length_lt
    simp only [List.length_cons] at inside
    omega
  rw [mapEntries_eq_ok_iff]
  constructor
  · rintro (⟨went, rfl⟩ | ⟨name, member, ds, others, went, first, more, rfl⟩)
    · exact .closed (nextKey_eq_closed_iff.mp went)
    · have opened := nextKey_first_eq_entry_iff.mp went
      exact .member opened first ((mapEntries_later_eq_ok_iff (shorter opened first)).mp more)
  · intro written
    cases written with
    | closed bracket => exact Or.inl ⟨nextKey_eq_closed_iff.mpr bracket, rfl⟩
    | @member name ds _ member others opened first more =>
      exact Or.inr ⟨name, member, ds, others, nextKey_first_eq_entry_iff.mpr opened, first,
        (mapEntries_later_eq_ok_iff (shorter opened first)).mpr more, rfl⟩

/-- A map of strings is read from exactly the texts that write one, with its members in their order. -/
theorem map_string_eq_ok_iff {expected : String} :
    map expected string cs = .ok (members, r) ↔ WritesMap cs members r := by
  constructor
  · intro read
    unfold map at read
    split at read
    · next body opened =>
      exact ⟨body, (skipBlank_eq_cons_iff (by decide)).mp opened, mapEntries_first_eq_ok_iff.mp read⟩
    · obtain ⟨p, -, refused⟩ := bind_eq_ok_iff.mp read
      cases refused
  · rintro ⟨body, opened, written⟩
    have skipped := (skipBlank_eq_cons_iff (by decide)).mpr opened
    simp only [map, skipped]
    exact mapEntries_first_eq_ok_iff.mpr written

/-! ## Whole texts -/

/-- The text is a map of strings with the members, and blanks around it. -/
def IsMapText (text : String) (members : List (String × String)) : Prop :=
  ∃ rest, WritesMap text.toList members rest ∧ AfterBlanks rest []

theorem readText_eq_ok_iff {α : Type} {read : Reader α} {text : String} {a : α} :
    readText read text = .ok a ↔ ∃ rest, read text.toList = .ok (a, rest) ∧ AfterBlanks rest [] := by
  constructor
  · intro whole
    unfold readText at whole
    split at whole
    · cases whole
    · next value rest found =>
      split at whole
      · next ended =>
        cases whole
        exact ⟨rest, found, skipBlank_isEmpty_iff.mp ended⟩
      · cases whole
  · rintro ⟨rest, found, ended⟩
    simp only [readText, found, skipBlank_isEmpty_iff.mpr ended, if_true]

end UtilityCss.Json
