/-!
# Blank characters and trimming

Two classes of blank characters matter here: the Unicode property White_Space, which user input is
trimmed by, and the five characters that a style sheet counts as white space. Trimming is defined for
any class, on lists of characters; the statements say what trimming keeps and when it changes nothing.
No other character property is claimed.
-/
namespace UtilityCss.Text

/-- The ranges of code points with the Unicode property White_Space, both ends included. -/
def whiteSpaceRanges : List (Nat × Nat) :=
  [(0x09, 0x0D), (0x20, 0x20), (0x85, 0x85), (0xA0, 0xA0), (0x1680, 0x1680), (0x2000, 0x200A),
   (0x2028, 0x2029), (0x202F, 0x202F), (0x205F, 0x205F), (0x3000, 0x3000)]

/-- A character with the Unicode property White_Space. -/
def isBlank (c : Char) : Bool :=
  whiteSpaceRanges.any fun r => decide (r.1 ≤ c.toNat) && decide (c.toNat ≤ r.2)

/-- White space of a style sheet: space, tab, line feed, form feed and carriage return. -/
def isCssBlank (c : Char) : Bool :=
  c == ' ' || c == '\t' || c == '\n' || c == '\x0c' || c == '\r'

/-- A style sheet's white space is a part of Unicode's. -/
theorem isBlank_of_isCssBlank {c : Char} (h : isCssBlank c = true) : isBlank c = true := by
  simp only [isCssBlank, Bool.or_eq_true, beq_iff_eq] at h
  rcases h with (((rfl | rfl) | rfl) | rfl) | rfl <;> decide

/-- Drops the longest run of `p` at the end. -/
def trimEnd (p : Char → Bool) (cs : List Char) : List Char :=
  (cs.reverse.dropWhile p).reverse

/-- Drops the longest runs of `p` at both ends. -/
def trim (p : Char → Bool) (cs : List Char) : List Char :=
  trimEnd p (cs.dropWhile p)

/-- No character of `p` stands at either end. -/
def Trimmed (p : Char → Bool) (cs : List Char) : Prop :=
  (∀ c ∈ cs.head?, p c = false) ∧ (∀ c ∈ cs.getLast?, p c = false)

theorem dropWhile_eq_self_of_head {p : Char → Bool} {cs : List Char}
    (h : ∀ c ∈ cs.head?, p c = false) : cs.dropWhile p = cs := by
  cases cs with
  | nil => rfl
  | cons c r => simp [h c rfl]

theorem head_dropWhile {p : Char → Bool} (cs : List Char) :
    ∀ c ∈ (cs.dropWhile p).head?, p c = false := by
  induction cs with
  | nil => simp
  | cons a r ih =>
    rw [List.dropWhile_cons]
    split
    · exact ih
    · next ha => simpa using ha

theorem trimEnd_eq_self {p : Char → Bool} {cs : List Char}
    (h : ∀ c ∈ cs.getLast?, p c = false) : trimEnd p cs = cs := by
  unfold trimEnd
  rw [dropWhile_eq_self_of_head (by simpa using h), List.reverse_reverse]

theorem getLast_trimEnd {p : Char → Bool} (cs : List Char) :
    ∀ c ∈ (trimEnd p cs).getLast?, p c = false := by
  simpa [trimEnd] using head_dropWhile (p := p) cs.reverse

/-- Trimming the end keeps an initial part. -/
theorem trimEnd_isPrefix (p : Char → Bool) (cs : List Char) : trimEnd p cs <+: cs := by
  have h := List.dropWhile_suffix (l := cs.reverse) p
  simpa [trimEnd] using List.reverse_prefix.mpr h

theorem trim_eq_self {p : Char → Bool} {cs : List Char} (h : Trimmed p cs) : trim p cs = cs := by
  rw [trim, dropWhile_eq_self_of_head h.1, trimEnd_eq_self h.2]

/-- A trimmed text has no character of the class at its ends. -/
theorem trimmed_trim (p : Char → Bool) (cs : List Char) : Trimmed p (trim p cs) := by
  refine ⟨?_, getLast_trimEnd _⟩
  intro c hc
  have hpre := trimEnd_isPrefix p (cs.dropWhile p)
  obtain ⟨t, ht⟩ := hpre
  apply head_dropWhile cs c
  rw [← ht]
  unfold trim at hc
  cases hcase : trimEnd p (cs.dropWhile p) with
  | nil => rw [hcase] at hc; simp at hc
  | cons a r => rw [hcase] at hc; simpa using hc

theorem trim_eq_self_iff {p : Char → Bool} {cs : List Char} : trim p cs = cs ↔ Trimmed p cs :=
  ⟨fun h => h ▸ trimmed_trim p cs, trim_eq_self⟩

instance decidableTrimmed (p : Char → Bool) (cs : List Char) : Decidable (Trimmed p cs) :=
  decidable_of_iff _ trim_eq_self_iff

example : trim isBlank "\u2003 a b\t".toList = "a b".toList := by decide

end UtilityCss.Text
