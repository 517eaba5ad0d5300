import Mathlib.Data.List.TakeWhile
import UtilityCss.Json.Text

/-!
# Which texts the JSON reader accepts for strings

The grammar of JSON strings is written as relations between a text, what a front of it spells, and what
follows that front. A character is spelled by itself, by a letter or by code behind a backslash. The reader
accepts exactly what spells a string and returns what is spelled, so a text spells one string at most. What
the reader says about other texts is left aside.
-/
namespace UtilityCss.Json

open UtilityCss.Text

variable {cs r : List Char} {c : Char} {n : Nat}

/-! ## Results -/

theorem map_eq_ok_iff {ε α β : Type} {x : Except ε α} {f : α → β} {b : β} :
    x.map f = .ok b ↔ ∃ a, x = .ok a ∧ f a = b := by
  cases x with
  | ok a =>
    constructor
    · intro mapped
      exact ⟨a, rfl, Except.ok.inj mapped⟩
    · rintro ⟨_, same, rfl⟩
      cases same
      rfl
  | error e =>
    constructor
    · intro mapped
      cases mapped
    · rintro ⟨_, same, -⟩
      cases same

theorem bind_eq_ok_iff {ε α β : Type} {x : Except ε α} {f : α → Except ε β} {b : β} :
    (x >>= f) = .ok b ↔ ∃ a, x = .ok a ∧ f a = .ok b := by
  cases x with
  | ok a =>
    constructor
    · intro bound
      exact ⟨a, rfl, bound⟩
    · rintro ⟨_, same, bound⟩
      cases same
      exact bound
  | error e =>
    constructor
    · intro bound
      cases bound
    · rintro ⟨_, same, -⟩
      cases same

/-! ## Blanks -/

/-- Behind blanks, if there are any, the text goes on with the rest. -/
def AfterBlanks (cs rest : List Char) : Prop :=
  ∃ blanks : List Char, (∀ c ∈ blanks, isBlank c = true) ∧ cs = blanks ++ rest

theorem AfterBlanks.length_le (h : AfterBlanks cs r) : r.length ≤ cs.length := by
  obtain ⟨blanks, -, rfl⟩ := h
  rw [List.length_append]
  omega

theorem skipBlank_eq_cons_iff (visible : isBlank c = false) :
    skipBlank cs = c :: r ↔ AfterBlanks cs (c :: r) := by
  constructor
  · intro skipped
    refine ⟨cs.takeWhile isBlank, fun a inside => List.mem_takeWhile_imp inside, ?_⟩
    rw [← skipped]
    exact List.takeWhile_append_dropWhile.symm
  · rintro ⟨blanks, all, rfl⟩
    rw [skipBlank, List.dropWhile_append_of_pos all, List.dropWhile_cons, visible]
    rfl

theorem skipBlank_isEmpty_iff : (skipBlank cs).isEmpty = true ↔ AfterBlanks cs [] := by
  rw [List.isEmpty_iff, skipBlank, List.dropWhile_eq_nil_iff]
  constructor
  · exact fun all => ⟨cs, all, (List.append_nil cs).symm⟩
  · rintro ⟨blanks, all, rfl⟩
    rwa [List.append_nil]

/-! ## Strings -/

/-- Four hexadecimal digits write a number. -/
inductive HexCode : List Char → Nat → List Char → Prop where
  | digits {a b c d : Char} {x y z w : Nat} {r : List Char} (first : hexValue? a = some x)
      (second : hexValue? b = some y) (third : hexValue? c = some z) (fourth : hexValue? d = some w) :
      HexCode (a :: b :: c :: d :: r) (16 * (16 * (16 * x + y) + z) + w) r

/-- A front of the text spells a character. -/
inductive SpellsChar : List Char → Char → List Char → Prop where
  | plain {c : Char} {r : List Char} (noQuote : c ≠ '"') (noBackslash : c ≠ '\\')
      (noControl : ¬ c.toNat < 0x20) : SpellsChar (c :: r) c r
  | letter {l c : Char} {r : List Char} (named : letterEscape? l = some c) :
      SpellsChar ('\\' :: l :: r) c r
  | code {cs r : List Char} {n : Nat} (digits : HexCode cs n r) (notLow : isLowSurrogate n = false)
      (notHigh : isHighSurrogate n = false) : SpellsChar ('\\' :: 'u' :: cs) (Char.ofNat n) r
  | pair {cs ds r : List Char} {n m : Nat} (first : HexCode cs n ('\\' :: 'u' :: ds))
      (second : HexCode ds m r) (high : isHighSurrogate n = true) (low : isLowSurrogate m = true) :
      SpellsChar ('\\' :: 'u' :: cs)
        (Char.ofNat (0x10000 + 0x400 * (n - 0xD800) + (m - 0xDC00))) r

/-- A front of the text spells the characters of a string, up to its closing quote. -/
inductive Spells : List Char → List Char → List Char → Prop where
  | closed {r : List Char} : Spells ('"' :: r) [] r
  | char {cs ds r s : List Char} {c : Char} (first : SpellsChar cs c ds) (others : Spells ds s r) :
      Spells cs (c :: s) r

theorem fourDigits_eq_ok_iff : fourDigits cs = .ok (n, r) ↔ HexCode cs n r := by
  constructor
  · intro read
    unfold fourDigits at read
    split at read
    · split at read
      · next first second third fourth =>
        cases read
        exact .digits first second third fourth
      · cases read
    · cases read
  · intro digits
    cases digits with
    | digits first second third fourth => simp only [fourDigits, first, second, third, fourth]

theorem lowSurrogate_eq_ok_iff :
    lowSurrogate cs = .ok (n, r) ↔
      ∃ ds, cs = '\\' :: 'u' :: ds ∧ HexCode ds n r ∧ isLowSurrogate n = true := by
  constructor
  · intro read
    unfold lowSurrogate at read
    split at read
    · cases read
    · cases read
    · split at read
      · next digits =>
        split at read
        · next low =>
          cases read
          exact ⟨_, rfl, fourDigits_eq_ok_iff.mp digits, low⟩
        · cases read
      · cases read
    · cases read
  · rintro ⟨ds, rfl, digits, low⟩
    simp only [lowSurrogate, fourDigits_eq_ok_iff.mpr digits, low, if_true]

/-- No surrogate is the first half and the second half of a pair. -/
theorem isLowSurrogate_of_isHighSurrogate (high : isHighSurrogate n = true) :
    isLowSurrogate n = false := by
  simp only [isHighSurrogate, Bool.and_eq_true, decide_eq_true_eq] at high
  simp only [isLowSurrogate, Bool.and_eq_false_iff, decide_eq_false_iff_not]
  omega

theorem codeEscape_eq_ok_iff : codeEscape cs = .ok (c, r) ↔ SpellsChar ('\\' :: 'u' :: cs) c r := by
  constructor
  · intro read
    unfold codeEscape at read
    split at read
    · cases read
    · next digits =>
      replace digits := fourDigits_eq_ok_iff.mp digits
      split at read
      · cases read
      · next notLow =>
        split at read
        · next high =>
          split at read
          · cases read
          · next second =>
            obtain ⟨ds, rfl, second, low⟩ := lowSurrogate_eq_ok_iff.mp second
            simp only [Except.ok.injEq, Prod.mk.injEq] at read
            obtain ⟨rfl, rfl⟩ := read
            exact .pair digits second high low
        · next notHigh =>
          cases read
          exact .code digits (by simpa using notLow) (by simpa using notHigh)
  · intro spelled
    cases spelled with
    | plain noQuote noBackslash => exact absurd rfl noBackslash
    | letter named => cases named
    | code digits notLow notHigh =>
      simp only [codeEscape, fourDigits_eq_ok_iff.mpr digits, notLow, notHigh, Bool.false_eq_true,
        if_false]
    | pair first second high low =>
      have half := lowSurrogate_eq_ok_iff.mpr ⟨_, rfl, second, low⟩
      simp only [codeEscape, fourDigits_eq_ok_iff.mpr first, half, high,
        isLowSurrogate_of_isHighSurrogate high, Bool.false_eq_true, if_false, if_true]

theorem escapedChar_eq_ok_iff : escapedChar cs = .ok (c, r) ↔ SpellsChar ('\\' :: cs) c r := by
  constructor
  · intro read
    unfold escapedChar at read
    split at read
    · cases read
    · split at read
      · next code =>
        rw [code]
        exact codeEscape_eq_ok_iff.mp read
      · split at read
        · next named =>
          cases read
          exact .letter named
        · cases read
  · intro spelled
    cases cs with
    | nil =>
      cases spelled with
      | plain noQuote noBackslash => exact absurd rfl noBackslash
    | cons l ds =>
      simp only [escapedChar]
      by_cases code : l = 'u'
      · rw [code] at spelled ⊢
        rw [if_pos rfl]
        exact codeEscape_eq_ok_iff.mpr spelled
      · rw [if_neg code]
        cases spelled with
        | plain noQuote noBackslash => exact absurd rfl noBackslash
        | letter named => rw [named]
        | code => exact absurd rfl code
        | pair => exact absurd rfl code

theorem stringChar_eq_none_iff : stringChar cs = .ok (none, r) ↔ cs = '"' :: r := by
  constructor
  · intro read
    unfold stringChar at read
    split at read
    · cases read
    · split at read
      · next quote =>
        cases read
        rw [quote]
      · split at read
        · obtain ⟨p, -, other⟩ := map_eq_ok_iff.mp read
          cases other
        · split at read
          · cases read
          · cases read
  · rintro rfl
    rfl

theorem stringChar_eq_some_iff : stringChar cs = .ok (some c, r) ↔ SpellsChar cs c r := by
  constructor
  · intro read
    unfold stringChar at read
    split at read
    · cases read
    · split at read
      · cases read
      · next noQuote =>
        split at read
        · next backslash =>
          obtain ⟨p, escaped, same⟩ := map_eq_ok_iff.mp read
          cases same
          rw [backslash]
          exact escapedChar_eq_ok_iff.mp escaped
        · next noBackslash =>
          split at read
          · cases read
          · next noControl =>
            cases read
            exact .plain noQuote noBackslash noControl
  · intro spelled
    cases cs with
    | nil => cases spelled
    | cons a ds =>
      by_cases backslash : a = '\\'
      · rw [backslash] at spelled ⊢
        have escaped := escapedChar_eq_ok_iff.mpr spelled
        simp only [stringChar, Char.reduceEq, if_false, if_true, escaped]
        rfl
      · cases spelled with
        | plain noQuote _ noControl =>
          simp only [stringChar, noQuote, backslash, noControl, if_false]
        | letter => exact absurd rfl backslash
        | code => exact absurd rfl backslash
        | pair => exact absurd rfl backslash

theorem stringChars_of_closed (closed : stringChar cs = .ok (none, r)) :
    stringChars cs = .ok ([], r) := by
  rw [stringChars]
  split
  · next failed => rw [closed] at failed; cases failed
  · next ended => rw [closed] at ended; cases ended; rfl
  · next went => rw [closed] at went; cases went

theorem stringChars_of_char (first : stringChar cs = .ok (some c, r)) :
    stringChars cs = (stringChars r).map fun p => (c :: p.1, p.2) := by
  rw [stringChars]
  split
  · next failed => rw [first] at failed; cases failed
  · next ended => rw [first] at ended; cases ended
  · next went => rw [first] at went; cases went; rfl

/-- The reader of strings accepts what spells a string, and returns what it spells. -/
theorem stringChars_eq_ok_iff {s : List Char} : stringChars cs = .ok (s, r) ↔ Spells cs s r := by
  constructor
  · intro read
    fun_induction stringChars cs generalizing s with
    | case1 cs e failed => cases read
    | case2 cs rest closed =>
      cases read
      rw [stringChar_eq_none_iff.mp closed]
      exact .closed
    | case3 cs c ds first _ ih =>
      obtain ⟨p, others, same⟩ := map_eq_ok_iff.mp read
      cases same
      exact .char (stringChar_eq_some_iff.mp first) (ih others)
  · intro spelled
    induction spelled with
    | closed => exact stringChars_of_closed (stringChar_eq_none_iff.mpr rfl)
    | char first others ih =>
      rw [stringChars_of_char (stringChar_eq_some_iff.mpr first), ih]
      rfl

theorem stringBody_eq_ok_iff {s : String} : stringBody cs = .ok (s, r) ↔ Spells cs s.toList r := by
  rw [stringBody, map_eq_ok_iff]
  constructor
  · rintro ⟨p, read, same⟩
    cases same
    rw [String.toList_ofList]
    exact stringChars_eq_ok_iff.mp read
  · intro spelled
    refine ⟨(s.toList, r), stringChars_eq_ok_iff.mpr spelled, ?_⟩
    exact congrArg (·, r) String.ofList_toList

theorem Spells.length_lt {s : List Char} (h : Spells cs s r) : r.length < cs.length := by
  induction h with
  | closed => exact Nat.lt_succ_self _
  | char first others ih =>
    have step := length_lt_of_stringChar (stringChar_eq_some_iff.mpr first)
    omega

end UtilityCss.Json
