import Mathlib.Data.List.Infix
import Mathlib.Data.List.TakeWhile
import UtilityCss.Text.Ascii
import UtilityCss.Text.Blank

/-!
# Separators and trimming

A text is cut into two parts by the last separator in it, and into all its items when the items hold none.
A separator of several characters cuts as well if it does not begin again inside of what it ends. The
longest run at the front stops at the first character that is not in it. Trimming leaves nothing exactly
of a blank text, and everything of a text whose ends are not blank.
-/
namespace UtilityCss.Text

variable {α : Type}

/-- The longest run of a class is what stands in front of the first other character. -/
theorem takeWhile_append_eq {p : α → Bool} {run rest : List α} (all : ∀ a ∈ run, p a = true)
    (ends : ∀ a ∈ rest.head?, p a = false) : (run ++ rest).takeWhile p = run := by
  rw [List.takeWhile_append_of_pos all]
  cases rest with
  | nil => simp
  | cons a r => simp [ends a rfl]

theorem dropWhile_append_eq {p : α → Bool} {run rest : List α} (all : ∀ a ∈ run, p a = true)
    (ends : ∀ a ∈ rest.head?, p a = false) : (run ++ rest).dropWhile p = rest := by
  rw [List.dropWhile_append_of_pos all]
  cases rest with
  | nil => rfl
  | cons a r => simp [ends a rfl]

/-- The last separator determines what stands before and behind it. -/
theorem eq_of_append_separator {x y l r : List α} {a : α} (hl : a ∉ l) (hr : a ∉ r)
    (same : x ++ a :: l = y ++ a :: r) : x = y ∧ l = r := by
  rcases List.append_eq_append_iff.mp same with ⟨m, hy, hm⟩ | ⟨m, hx, hm⟩
  · cases m with
    | nil => exact ⟨by simpa using hy.symm, (List.cons.inj hm).2⟩
    | cons b m =>
      have inside : a ∈ l := by
        rw [(List.cons.inj hm).2]
        simp
      exact absurd inside hl
  · cases m with
    | nil => exact ⟨by simpa using hx, (List.cons.inj hm).2.symm⟩
    | cons b m =>
      have inside : a ∈ r := by
        rw [(List.cons.inj hm).2]
        simp
      exact absurd inside hr

/-- Cuts at the last place where the separator stands. -/
def cutLast? [BEq α] (separator : List α) : List α → Option (List α × List α)
  | [] => none
  | a :: r =>
    match cutLast? separator r with
    | some (front, back) => some (a :: front, back)
    | none => (separator.isPrefixOf? (a :: r)).map fun back => ([], back)

/-- Nothing is cut exactly when the separator stands nowhere. -/
theorem cutLast?_eq_none_iff [BEq α] [LawfulBEq α] {separator : List α} (present : separator ≠ [])
    {xs : List α} : cutLast? separator xs = none ↔ ¬ separator <:+: xs := by
  induction xs with
  | nil => simp [cutLast?, present]
  | cons a r ih =>
    have here : separator.isPrefixOf? (a :: r) = none ↔ ¬ separator <+: a :: r := by
      rw [← Option.not_isSome_iff_eq_none, List.isSome_isPrefixOf?_eq_isPrefixOf,
        List.isPrefixOf_iff_prefix]
    rw [cutLast?, List.infix_cons_iff, not_or, ← here, ← ih]
    cases cutLast? separator r with
    | some parts => simp
    | none => simp

/-- The separator is cut at if it does not begin again behind its first place. -/
theorem cutLast?_append [BEq α] [LawfulBEq α] {a : α} {separator back : List α}
    (last : ¬ (a :: separator) <:+: separator ++ back) (front : List α) :
    cutLast? (a :: separator) (front ++ (a :: separator ++ back)) = some (front, back) := by
  induction front with
  | nil =>
    have later : cutLast? (a :: separator) (separator ++ back) = none :=
      (cutLast?_eq_none_iff (List.cons_ne_nil a separator)).mpr last
    have here : (a :: separator).isPrefixOf? (a :: (separator ++ back)) = some back :=
      List.isPrefixOf?_eq_some_iff_append_eq.mpr rfl
    rw [List.nil_append, List.cons_append, cutLast?, later, here, Option.map_some]
  | cons b front ih => rw [List.cons_append, cutLast?, ih]

/-- Joined items are read back if none of them holds the separator. -/
theorem splitOn_joined {joint : String} {separator : Char} (single : joint.toList = [separator])
    {items : List String} (clean : ∀ item ∈ items, separator ∉ item.toList) (filled : items ≠ []) :
    (joint.intercalate items).toList.splitOn separator = items.map String.toList := by
  have whole : ∀ cs ∈ items.map String.toList, separator ∉ cs := by
    intro cs hcs
    obtain ⟨item, inside, rfl⟩ := List.mem_map.mp hcs
    exact clean item inside
  rw [String.toList_intercalate, single]
  exact List.splitOn_intercalate separator whole (by simpa using filled)

/-- Items that are joined by a separator and a padding are read back, each but the first with the
padding in front of it. -/
theorem splitOn_intercalate_padded [DecidableEq α] {separator padding : α}
    (differ : separator ≠ padding) (first : List α) (rest : List (List α))
    (h : ∀ item ∈ first :: rest, separator ∉ item) :
    ([separator, padding].intercalate (first :: rest)).splitOn separator =
      first :: rest.map (padding :: ·) := by
  induction rest generalizing first with
  | nil =>
    have single : [separator, padding].intercalate [first] = first := by simp [List.intercalate]
    rw [single, List.splitOn_eq_singleton (h first List.mem_cons_self), List.map_nil]
  | cons second rest ih =>
    have joined : [separator, padding].intercalate (first :: second :: rest) =
        first ++ separator :: [separator, padding].intercalate ((padding :: second) :: rest) := by
      cases rest <;> simp [List.intercalate]
    have clean : ∀ item ∈ (padding :: second) :: rest, separator ∉ item := by
      intro item hitem
      rcases List.mem_cons.mp hitem with rfl | hitem
      · have := h second (by simp)
        simp [differ, this]
      · exact h item (by simp [hitem])
    rw [joined, List.splitOn_append_cons_self_of_not_mem (h first List.mem_cons_self), ih _ clean,
      List.map_cons]

theorem trim_cons_of_blank {p : Char → Bool} {c : Char} (blank : p c = true) (cs : List Char) :
    trim p (c :: cs) = trim p cs := by
  rw [trim, List.dropWhile_cons_of_pos blank, trim]

theorem trim_map (p : Char → Bool) (f : Char → Char) (cs : List Char) :
    trim p (cs.map f) = (trim (p ∘ f) cs).map f := by
  rw [trim, List.dropWhile_map, trimEnd, ← List.map_reverse, List.dropWhile_map, ← List.map_reverse]
  rfl

/-- What holds of every ASCII character by its code holds of a character of ASCII. -/
theorem of_ascii {P : Char → Prop} (all : ∀ n < 128, P (Char.ofNat n)) {c : Char}
    (ascii : c.toNat < 128) : P c := by
  rw [← Char.ofNat_toNat c]
  exact all c.toNat ascii

/-- A range that ends in ASCII is one of ASCII. -/
theorem toNat_lt_of_between {c first last : Char} (small : last.toNat < 128)
    (between : (decide (first ≤ c) && decide (c ≤ last)) = true) : c.toNat < 128 := by
  simp only [Bool.and_eq_true, decide_eq_true_eq] at between
  exact Nat.lt_of_le_of_lt (UInt32.le_iff_toNat_le.mp between.2) small

theorem toNat_lt_of_isUpper {c : Char} (capital : isUpper c = true) : c.toNat < 128 :=
  toNat_lt_of_between (by decide) capital

theorem toNat_lt_of_isLower {c : Char} (small : isLower c = true) : c.toNat < 128 :=
  toNat_lt_of_between (by decide) small

/-- What holds of every capital of ASCII by its code holds of a capital. -/
theorem of_isUpper {P : Char → Prop} (all : ∀ n < 128, isUpper (Char.ofNat n) = true → P (Char.ofNat n))
    {c : Char} (capital : isUpper c = true) : P c :=
  of_ascii (P := fun c => isUpper c = true → P c) all (toNat_lt_of_isUpper capital) capital

theorem lowerChar_of_not_isUpper {c : Char} (noCapital : ¬ isUpper c = true) : lowerChar c = c := by
  rw [lowerChar, if_neg noCapital]

/-- Only characters of ASCII change their case, so a relation between a character and its lower-case letter
is looked up there. -/
theorem lowerChar_induction {P : Char → Char → Prop}
    (all : ∀ n < 128, P (Char.ofNat n) (lowerChar (Char.ofNat n))) (same : ∀ c, P c c) (c : Char) :
    P c (lowerChar c) := by
  by_cases capital : isUpper c = true
  · exact of_ascii (P := fun c => P c (lowerChar c)) all (toNat_lt_of_isUpper capital)
  · rw [lowerChar_of_not_isUpper capital]
    exact same c

theorem isLower_lowerChar {c : Char} (capital : isUpper c = true) : isLower (lowerChar c) = true :=
  of_isUpper (P := fun c => isLower (lowerChar c) = true) (by decide +kernel) capital

theorem upperChar_lowerChar {c : Char} (capital : isUpper c = true) : upperChar (lowerChar c) = c :=
  of_isUpper (P := fun c => upperChar (lowerChar c) = c) (by decide +kernel) capital

theorem isUpper_upperChar {c : Char} (small : isLower c = true) : isUpper (upperChar c) = true :=
  of_ascii (P := fun c => isLower c = true → isUpper (upperChar c) = true) (by decide +kernel)
    (toNat_lt_of_isLower small) small

/-- No letter is both. -/
theorem isLower_of_isUpper {c : Char} (capital : isUpper c = true) : isLower c = false :=
  of_isUpper (P := fun c => isLower c = false) (by decide +kernel) capital

/-- No character is a capital in its small form. -/
theorem isUpper_lowerChar (c : Char) : isUpper (lowerChar c) = false := by
  by_cases capital : isUpper c = true
  · exact of_isUpper (P := fun c => isUpper (lowerChar c) = false) (by decide +kernel) capital
  · rw [lowerChar_of_not_isUpper capital]
    exact Bool.eq_false_iff.mpr capital

theorem lowerChar_lowerChar (c : Char) : lowerChar (lowerChar c) = lowerChar c :=
  lowerChar_of_not_isUpper (by simp [isUpper_lowerChar])

theorem lower_cons (c : Char) (r : List Char) : lower (c :: r) = lowerChar c :: lower r := rfl

theorem lower_lower (cs : List Char) : lower (lower cs) = lower cs := by
  simp [lower, lowerChar_lowerChar]

/-- A character without case is the small form of itself alone. -/
theorem lowerChar_eq_iff {c x : Char} (caseless : isLetter x = false) : lowerChar c = x ↔ c = x := by
  rw [isLetter, Bool.or_eq_false_iff] at caseless
  by_cases capital : isUpper c = true
  · refine iff_of_false ?_ ?_ <;> rintro rfl
    · rw [isLower_lowerChar capital] at caseless
      cases caseless.2
    · rw [capital] at caseless
      cases caseless.1
  · rw [lowerChar_of_not_isUpper capital]

/-- So it stands in small letters where it stood before. -/
theorem lower_eq_cons_iff {x : Char} {cs r : List Char} (caseless : isLetter x = false) :
    lower cs = x :: r ↔ ∃ t, cs = x :: t ∧ lower t = r := by
  simp only [lower, List.map_eq_cons_iff, lowerChar_eq_iff caseless]
  constructor
  · rintro ⟨a, t, rfl, rfl, rest⟩
    exact ⟨t, rfl, rest⟩
  · rintro ⟨t, rfl, rest⟩
    exact ⟨x, t, rfl, rfl, rest⟩


theorem hexValue?_lowerChar (a : Char) : hexValue? (lowerChar a) = hexValue? a :=
  lowerChar_induction (P := fun a b => hexValue? b = hexValue? a) (by decide +kernel) (fun _ => rfl) a

theorem isBlank_lowerChar (a : Char) : isBlank (lowerChar a) = isBlank a :=
  lowerChar_induction (P := fun a b => isBlank b = isBlank a) (by decide +kernel) (fun _ => rfl) a

theorem isHexDigit_lowerChar (a : Char) : isHexDigit (lowerChar a) = isHexDigit a := by
  rw [isHexDigit, hexValue?_lowerChar, isHexDigit]

theorem isHexDigit_of_isDigit {c : Char} (digit : isDigit c = true) : isHexDigit c = true := by
  simp [isHexDigit, hexValue?, digit]

theorem toNat_lt_of_isHexDigit {c : Char} (hex : isHexDigit c = true) : c.toNat < 128 := by
  simp only [isHexDigit, hexValue?] at hex
  split at hex
  · next digit => exact toNat_lt_of_between (by decide) digit
  · split at hex
    · next small => exact toNat_lt_of_between (by decide) small
    · split at hex
      · next capital => exact toNat_lt_of_between (by decide) capital
      · cases hex

theorem isBlank_of_isDigit {c : Char} (digit : isDigit c = true) : isBlank c = false := by
  have ascii : c.toNat < 128 := toNat_lt_of_isHexDigit (isHexDigit_of_isDigit digit)
  revert digit
  exact of_ascii (P := fun c => isDigit c = true → isBlank c = false) (by decide +kernel) ascii

theorem isCssBlank_of_isDigit {c : Char} (digit : isDigit c = true) : isCssBlank c = false := by
  have visible : isBlank c = false := isBlank_of_isDigit digit
  rw [Bool.eq_false_iff]
  intro blank
  rw [isBlank_of_isCssBlank blank] at visible
  cases visible

/-- A text without blanks is trimmed. -/
theorem trimmed_of_forall {p : Char → Bool} {cs : List Char} (visible : ∀ c ∈ cs, p c = false) :
    Trimmed p cs :=
  ⟨fun c first => visible c (List.mem_of_mem_head? first),
    fun c last => visible c (List.mem_of_mem_getLast? last)⟩

theorem trimmed_of_ends {p : Char → Bool} {a b : Char} (first : p a = false) (last : p b = false)
    (body : List Char) : Trimmed p (a :: (body ++ [b])) := by
  constructor
  · simpa using first
  · rw [← List.cons_append, List.getLast?_concat]
    simpa using last

/-- Trimming leaves nothing of a text exactly when the text is blank. -/
theorem trim_eq_nil_iff {p : Char → Bool} {cs : List Char} :
    trim p cs = [] ↔ ∀ c ∈ cs, p c = true := by
  constructor
  · intro nothing
    rw [trim, trimEnd, List.reverse_eq_nil_iff, List.dropWhile_eq_nil_iff] at nothing
    cases hrest : cs.dropWhile p with
    | nil => exact List.dropWhile_eq_nil_iff.mp hrest
    | cons a r =>
      -- What is left starts with a character that is not blank.
      have visible := head_dropWhile (p := p) cs a (by simp [hrest])
      have blank := nothing a (by simp [hrest])
      rw [visible] at blank
      cases blank
  · intro blank
    rw [trim, List.dropWhile_eq_nil_iff.mpr blank]
    rfl

/-- Trimming takes nothing but characters of the class, and only from the ends. -/
theorem exists_trim (p : Char → Bool) (cs : List Char) : ∃ front back,
    cs = front ++ trim p cs ++ back ∧ (∀ c ∈ front, p c = true) ∧ ∀ c ∈ back, p c = true := by
  refine ⟨cs.takeWhile p, ((cs.dropWhile p).reverse.takeWhile p).reverse, ?_, ?_, ?_⟩
  · have kept : trim p cs ++ ((cs.dropWhile p).reverse.takeWhile p).reverse = cs.dropWhile p := by
      rw [trim, trimEnd, ← List.reverse_append, List.takeWhile_append_dropWhile, List.reverse_reverse]
    rw [List.append_assoc, kept, List.takeWhile_append_dropWhile]
  · exact fun c inside => List.mem_takeWhile_imp inside
  · exact fun c inside => List.mem_takeWhile_imp (List.mem_reverse.mp inside)

/-- What stands between two runs of the class is what trimming leaves, if the runs are as long as can be. -/
theorem trim_append {p : Char → Bool} {front kept back : List Char} (before : ∀ c ∈ front, p c = true)
    (trimmed : Trimmed p kept) (after : ∀ c ∈ back, p c = true) :
    trim p (front ++ kept ++ back) = kept := by
  cases kept with
  | nil =>
    apply trim_eq_nil_iff.mpr
    simpa [or_imp, forall_and] using ⟨before, after⟩
  | cons a r =>
    have first : ((a :: r) ++ back).dropWhile p = (a :: r) ++ back :=
      dropWhile_eq_self_of_head (by simpa using trimmed.1)
    have last : (back.reverse ++ (a :: r).reverse).dropWhile p = (a :: r).reverse := by
      refine dropWhile_append_eq (fun c inside => after c (List.mem_reverse.mp inside)) ?_
      rw [List.head?_reverse]
      exact trimmed.2
    rw [trim, List.append_assoc, List.dropWhile_append_of_pos before, first, trimEnd,
      List.reverse_append, last, List.reverse_reverse]

end UtilityCss.Text
