import UtilityCss.Json.Fault
import UtilityCss.Text.Ascii

/-!
# Blanks, words and strings of JSON

Strings are read strictly: an escaped surrogate must be one half of a pair. A string that is only
skipped may hold any four hexadecimal digits behind `\u`. Characters below the space stand in no
string.
-/
namespace UtilityCss.Json

open UtilityCss.Text

def isBlank (c : Char) : Bool := c == ' ' || c == '\n' || c == '\t' || c == '\r'

def skipBlank (cs : List Char) : List Char := cs.dropWhile isBlank

/-- Insists on the letters of a word. -/
def expectWord : List Char → List Char → Except (Fault (List Char)) (List Char)
  | [], cs => .ok cs
  | _ :: _, [] => .error .unfinished
  | w :: ws, c :: cs => if c = w then expectWord ws cs else .error .malformed

/-- Four hexadecimal digits. The text is unfinished when less than four bytes are left. -/
def fourDigits (cs : List Char) : Except (Fault (List Char)) (Nat × List Char) :=
  match cs with
  | a :: b :: c :: d :: r =>
    match hexValue? a, hexValue? b, hexValue? c, hexValue? d with
    | some a, some b, some c, some d => .ok (16 * (16 * (16 * a + b) + c) + d, r)
    | _, _, _, _ => .error .malformed
  | _ => .error (if byteCount cs < 4 then .unfinished else .malformed)

theorem length_lt_of_fourDigits {cs r : List Char} {n : Nat} (h : fourDigits cs = .ok (n, r)) :
    r.length < cs.length := by
  unfold fourDigits at h
  split at h
  · split at h
    · simp only [Except.ok.injEq, Prod.mk.injEq] at h
      obtain ⟨-, rfl⟩ := h
      simp only [List.length_cons]
      omega
    · cases h
  · cases h

def isHighSurrogate (n : Nat) : Bool := decide (0xD800 ≤ n) && decide (n ≤ 0xDBFF)

def isLowSurrogate (n : Nat) : Bool := decide (0xDC00 ≤ n) && decide (n ≤ 0xDFFF)

/-- The second half of a pair, with its `\u`. -/
def lowSurrogate (cs : List Char) : Except (Fault (List Char)) (Nat × List Char) :=
  match cs with
  | [] | ['\\'] => .error .unfinished
  | '\\' :: 'u' :: r =>
    match fourDigits r with
    | .ok (n, rest) => if isLowSurrogate n then .ok (n, rest) else .error .malformed
    | .error f => .error f
  | _ => .error .malformed

theorem length_lt_of_lowSurrogate {cs r : List Char} {n : Nat} (h : lowSurrogate cs = .ok (n, r)) :
    r.length < cs.length := by
  unfold lowSurrogate at h
  split at h
  · cases h
  · cases h
  · split at h
    · next hd =>
      split at h
      · simp only [Except.ok.injEq, Prod.mk.injEq] at h
        obtain ⟨-, rfl⟩ := h
        have := length_lt_of_fourDigits hd
        simp only [List.length_cons]
        omega
      · cases h
    · cases h
  · cases h

/-- The character of an escape by code, behind the letter `u`. -/
def codeEscape (cs : List Char) : Except (Fault (List Char)) (Char × List Char) :=
  match fourDigits cs with
  | .error f => .error f
  | .ok (n, r) =>
    if isLowSurrogate n then .error .malformed
    else if isHighSurrogate n then
      match lowSurrogate r with
      | .error f => .error f
      | .ok (m, rest) => .ok (Char.ofNat (0x10000 + 0x400 * (n - 0xD800) + (m - 0xDC00)), rest)
    else .ok (Char.ofNat n, r)

theorem length_lt_of_codeEscape {cs r : List Char} {c : Char} (h : codeEscape cs = .ok (c, r)) :
    r.length < cs.length := by
  unfold codeEscape at h
  split at h
  · cases h
  · next n s hd =>
    have hs := length_lt_of_fourDigits hd
    split at h
    · cases h
    · split at h
      · split at h
        · cases h
        · next hl =>
          simp only [Except.ok.injEq, Prod.mk.injEq] at h
          obtain ⟨-, rfl⟩ := h
          have := length_lt_of_lowSurrogate hl
          omega
      · simp only [Except.ok.injEq, Prod.mk.injEq] at h
        obtain ⟨-, rfl⟩ := h
        exact hs

/-- The character that a letter behind a backslash stands for. -/
def letterEscape? (c : Char) : Option Char :=
  match c with
  | '"' => some '"'
  | '\\' => some '\\'
  | '/' => some '/'
  | 'b' => some '\x08'
  | 'f' => some '\x0C'
  | 'n' => some '\n'
  | 'r' => some '\r'
  | 't' => some '\t'
  | _ => none

/-- The character of an escape, behind the backslash. -/
def escapedChar (cs : List Char) : Except (Fault (List Char)) (Char × List Char) :=
  match cs with
  | [] => .error .unfinished
  | c :: r =>
    if c = 'u' then codeEscape r
    else
      match letterEscape? c with
      | some d => .ok (d, r)
      | none => .error .malformed

theorem length_lt_of_escapedChar {cs r : List Char} {c : Char} (h : escapedChar cs = .ok (c, r)) :
    r.length < cs.length := by
  unfold escapedChar at h
  split at h
  · cases h
  · split at h
    · have := length_lt_of_codeEscape h
      simp only [List.length_cons]
      omega
    · split at h
      · simp only [Except.ok.injEq, Prod.mk.injEq] at h
        obtain ⟨-, rfl⟩ := h
        exact Nat.lt_succ_self _
      · cases h

/-- The next character of a string, or none at its closing quote. -/
def stringChar (cs : List Char) : Except (Fault (List Char)) (Option Char × List Char) :=
  match cs with
  | [] => .error .unfinished
  | c :: r =>
    if c = '"' then .ok (none, r)
    else if c = '\\' then (escapedChar r).map fun (d, rest) => (some d, rest)
    else if c.toNat < 0x20 then .error .malformed
    else .ok (some c, r)

theorem length_lt_of_stringChar {cs r : List Char} {c : Option Char}
    (h : stringChar cs = .ok (c, r)) : r.length < cs.length := by
  unfold stringChar at h
  split at h
  · cases h
  · split at h
    · cases h
      exact Nat.lt_succ_self _
    · split at h
      · cases he : escapedChar _ with
        | error f =>
          rw [he] at h
          cases h
        | ok p =>
          rw [he] at h
          cases h
          have := length_lt_of_escapedChar he
          simp only [List.length_cons]
          omega
      · split at h
        · cases h
        · cases h
          exact Nat.lt_succ_self _

/-- The characters of a string, behind its opening quote. -/
def stringChars (cs : List Char) : Except (Fault (List Char)) (List Char × List Char) :=
  match h : stringChar cs with
  | .error f => .error f
  | .ok (none, r) => .ok ([], r)
  | .ok (some c, r) =>
    have := length_lt_of_stringChar h
    (stringChars r).map fun (s, rest) => (c :: s, rest)
termination_by cs.length

/-- Reads a string behind its opening quote. -/
def stringBody : Reader String := fun cs =>
  (stringChars cs).map fun (s, rest) => (String.ofList s, rest)

/-- Skips one character of a string, and tells whether the string goes on. -/
def skipChar (cs : List Char) : Except (Fault (List Char)) (Bool × List Char) :=
  match cs with
  | [] | ['\\'] => .error .unfinished
  | '\\' :: c :: r =>
    if c = 'u' then (fourDigits r).map fun (_, rest) => (true, rest)
    else if (letterEscape? c).isSome then .ok (true, r)
    else .error .malformed
  | c :: r =>
    if c = '"' then .ok (false, r)
    else if c.toNat < 0x20 then .error .malformed
    else .ok (true, r)

theorem length_lt_of_skipChar {cs r : List Char} {b : Bool} (h : skipChar cs = .ok (b, r)) :
    r.length < cs.length := by
  unfold skipChar at h
  split at h
  · cases h
  · cases h
  · split at h
    · cases hd : fourDigits _ with
      | error f =>
        rw [hd] at h
        cases h
      | ok p =>
        rw [hd] at h
        cases h
        have := length_lt_of_fourDigits hd
        simp only [List.length_cons]
        omega
    · split at h
      · cases h
        simp only [List.length_cons]
        omega
      · cases h
  · split at h
    · cases h
      exact Nat.lt_succ_self _
    · split at h
      · cases h
      · cases h
        exact Nat.lt_succ_self _

/-- Skips a string behind its opening quote. -/
def skipString (cs : List Char) : Except (Fault (List Char)) (List Char) :=
  match h : skipChar cs with
  | .error f => .error f
  | .ok (false, r) => .ok r
  | .ok (true, r) =>
    have := length_lt_of_skipChar h
    skipString r
termination_by cs.length

example : stringBody "a\\u00e9\\ud83e\\udd80\\n\" x".toList = .ok ("aé🦀\n", " x".toList) := by
  cbv

example : ["\\ud800\"", "\\udc00\"", "\\x\"", "\t\"", "\\u12\"\x7d"].map (fun t => stringBody t.toList) =
    List.replicate 5 (.error .malformed) := by cbv

example : skipString "\\ud800\"".toList = .ok [] := by cbv

example : stringBody "\\u12".toList = .error .unfinished := by cbv

end UtilityCss.Json
