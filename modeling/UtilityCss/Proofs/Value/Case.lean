import UtilityCss.Proofs.Value.Number

/-!
# Case in values

A text and the same text in small letters are read in lock step: every part of the reader takes as many
characters of the one as of the other. What it takes is the same but for the case of units, which are compared
without regard to it. So texts that differ in case alone are values of the same kinds.
-/
namespace UtilityCss.Value

open UtilityCss.Text

variable {c x y : Char} {cs r : List Char}

/-! ## Characters -/

theorem isDigit_lowerChar (c : Char) : isDigit (lowerChar c) = isDigit c :=
  lowerChar_induction (P := fun a b => isDigit b = isDigit a) (by decide +kernel) (fun _ => rfl) c

theorem isNewline_lowerChar (c : Char) : isNewline (lowerChar c) = isNewline c :=
  lowerChar_induction (P := fun a b => isNewline b = isNewline a) (by decide +kernel) (fun _ => rfl) c

theorem isCssBlank_lowerChar (c : Char) : isCssBlank (lowerChar c) = isCssBlank c :=
  lowerChar_induction (P := fun a b => isCssBlank b = isCssBlank a) (by decide +kernel) (fun _ => rfl) c

theorem startsName_lowerChar (c : Char) : startsName (lowerChar c) = startsName c :=
  lowerChar_induction (P := fun a b => startsName b = startsName a) (by decide +kernel) (fun _ => rfl) c

/-- A power of ten is marked in either case. -/
theorem marker_lowerChar (c : Char) :
    (lowerChar c == 'e' || lowerChar c == 'E') = (c == 'e' || c == 'E') :=
  lowerChar_induction (P := fun a b => (b == 'e' || b == 'E') = (a == 'e' || a == 'E'))
    (by decide +kernel) (fun _ => rfl) c

theorem beq_lowerChar (caseless : isLetter x = false) (c : Char) : (lowerChar c == x) = (c == x) := by
  rw [Bool.eq_iff_iff, beq_iff_eq, beq_iff_eq, lowerChar_eq_iff caseless]

theorem continuesName_lowerChar (c : Char) : continuesName (lowerChar c) = continuesName c := by
  have hyphen : (lowerChar c == '-') = (c == '-') := beq_lowerChar (by decide) c
  simp only [continuesName, startsName_lowerChar, isDigit_lowerChar, hyphen]

/-- What does not start with a character without case does not do so in small letters. -/
theorem lower_ne_cons (caseless : isLetter x = false) (other : ∀ t, cs = x :: t → False) :
    ∀ t, lower cs = x :: t → False := by
  intro t same
  obtain ⟨s, first, -⟩ := (lower_eq_cons_iff caseless).mp same
  exact other s first

theorem lower_ne_pair (first : isLetter x = false) (second : isLetter y = false)
    (other : ∀ t, c = x → r = y :: t → False) :
    ∀ t, lowerChar c = x → lower r = y :: t → False := by
  intro t same
  exact lower_ne_cons second (fun s => other s ((lowerChar_eq_iff first).mp same)) t

/-! ## Runs of a class -/

section
variable {p : Char → Bool} (blind : ∀ c, p (lowerChar c) = p c)
include blind

theorem takeWhile_lower (cs : List Char) : (lower cs).takeWhile p = lower (cs.takeWhile p) := by
  have same : p ∘ lowerChar = p := funext blind
  rw [lower, List.takeWhile_map, same, lower]

theorem dropWhile_lower (cs : List Char) : (lower cs).dropWhile p = lower (cs.dropWhile p) := by
  have same : p ∘ lowerChar = p := funext blind
  rw [lower, List.dropWhile_map, same, lower]

theorem head?_any_lower (cs : List Char) : (lower cs).head?.any p = cs.head?.any p := by
  cases cs with
  | nil => rfl
  | cons c r => exact blind c

end

/-! ## Numbers -/

theorem dropSign_lower (cs : List Char) : dropSign (lower cs) = lower (dropSign cs) := by
  fun_cases dropSign cs with
  | case1 r => rfl
  | case2 r => rfl
  | case3 cs noPlus noMinus =>
    rw [dropSign]
    · exact lower_ne_cons (by decide) noPlus
    · exact lower_ne_cons (by decide) noMinus

theorem digitsStartAt_lower (cs : List Char) : digitsStartAt (lower cs) = digitsStartAt cs := by
  cases cs with
  | nil => rfl
  | cons c r =>
    by_cases point : c = '.'
    · subst point
      cases r with
      | nil => rfl
      | cons d t => exact isDigit_lowerChar d
    · have noPoint : lowerChar c ≠ '.' := point ∘ (lowerChar_eq_iff (by decide)).mp
      have digit := isDigit_lowerChar c
      simp [digitsStartAt, lower, point, noPoint, digit]

theorem dropDigits_lower (cs : List Char) : dropDigits (lower cs) = lower (dropDigits cs) := by
  have run := dropWhile_lower isDigit_lowerChar cs
  fun_cases dropDigits cs with
  | case1 c r point digit =>
    rw [dropDigits, run, point]
    change (if isDigit (lowerChar c) then (lower r).dropWhile isDigit else _) = _
    rw [isDigit_lowerChar, if_pos digit, dropWhile_lower isDigit_lowerChar]
  | case2 c r point noDigit =>
    rw [dropDigits, run, point]
    change (if isDigit (lowerChar c) then _ else lower ('.' :: c :: r)) = _
    rw [isDigit_lowerChar, if_neg noDigit]
  | case3 noPoint =>
    rw [dropDigits, run]
    split
    · next c r same =>
      -- The point and what follows it would stand in the text itself.
      obtain ⟨t, behind, rest⟩ := (lower_eq_cons_iff (by decide)).mp same
      obtain ⟨d, t, rfl, -⟩ := List.map_eq_cons_iff.mp rest
      exact (noPoint d t behind).elim
    · rfl

theorem dropExponent_lower (cs : List Char) : dropExponent (lower cs) = lower (dropExponent cs) := by
  cases cs with
  | nil => rfl
  | cons c r =>
    have power := head?_any_lower isDigit_lowerChar (dropSign r)
    have run := dropWhile_lower isDigit_lowerChar (dropSign r)
    rw [← dropSign_lower] at power run
    have marker := marker_lowerChar c
    rw [lower_cons, dropExponent, marker, dropExponent, power]
    split
    · exact run
    · rfl

/-! ## Escapes and names -/

theorem nameStartsAt_lower (cs : List Char) : nameStartsAt (lower cs) = nameStartsAt cs := by
  fun_cases nameStartsAt cs with
  | case1 r => exact congrArg (!·) (head?_any_lower isNewline_lowerChar r)
  | case2 r => rfl
  | case3 c r noEscape =>
    change nameStartsAt ('-' :: lowerChar c :: lower r) = _
    rw [nameStartsAt]
    · rw [startsName_lowerChar, beq_lowerChar (by decide)]
    · exact noEscape ∘ (lowerChar_eq_iff (by decide)).mp
  | case4 c r noEscape noHyphenEscape noHyphen =>
    rw [lower_cons, nameStartsAt]
    · exact startsName_lowerChar c
    · exact noEscape ∘ (lowerChar_eq_iff (by decide)).mp
    · exact lower_ne_pair (by decide) (by decide) noHyphenEscape
    · intro d t first second
      obtain ⟨a, s, behind, -⟩ := List.map_eq_cons_iff.mp second
      exact noHyphen a s ((lowerChar_eq_iff (by decide)).mp first) behind
  | case5 => rfl

theorem hexNumber_lower (cs : List Char) : hexNumber (lower cs) = hexNumber cs := by
  simp [hexNumber, lower, List.foldl_map, hexValue?_lowerChar]

theorem dropBlank_lower (cs : List Char) : dropBlank (lower cs) = lower (dropBlank cs) := by
  fun_cases dropBlank cs with
  | case1 r => rfl
  | case2 c r noPair blank =>
    rw [lower_cons, dropBlank]
    · rw [isCssBlank_lowerChar, if_pos blank]
    · exact lower_ne_pair (by decide) (by decide) noPair
  | case3 c r noPair visible =>
    rw [lower_cons, dropBlank]
    · rw [isCssBlank_lowerChar, if_neg visible]
    · exact lower_ne_pair (by decide) (by decide) noPair
  | case4 => rfl

/-- What is read of a text in small letters, beside what is read of the text: the same character but for its
case, and as much is left. -/
def InStep (small read : Char × List Char) : Prop :=
  lowerChar small.1 = lowerChar read.1 ∧ small.2 = lower read.2

/-- NUL is replaced in either case. -/
theorem lowerChar_written (c : Char) :
    lowerChar (if lowerChar c == '\x00' then replacement else lowerChar c) =
      lowerChar (if c == '\x00' then replacement else c) := by
  have nul : (lowerChar c == '\x00') = (c == '\x00') := beq_lowerChar (by decide) c
  rw [nul]
  split
  · rfl
  · exact lowerChar_lowerChar c

/-- The hexadecimal digits at the front of an escape. -/
def escapeDigits (cs : List Char) : List Char := (cs.take 6).takeWhile isHexDigit

theorem readEscape_of_digit (digit : isHexDigit c = true) :
    readEscape (c :: r) = (charOfCode (hexNumber (escapeDigits (c :: r))),
      dropBlank ((c :: r).drop (escapeDigits (c :: r)).length)) := by
  simp [readEscape, escapeDigits, digit]

theorem readEscape_of_other (other : ¬ isHexDigit c = true) :
    readEscape (c :: r) = (if c == '\x00' then replacement else c, r) := by
  simp [readEscape, other]

theorem escapeDigits_lower (cs : List Char) : escapeDigits (lower cs) = lower (escapeDigits cs) := by
  rw [escapeDigits, lower, ← List.map_take]
  exact takeWhile_lower isHexDigit_lowerChar _

/-- The digits of an escape have the same value in either case. -/
theorem readEscape_lower (cs : List Char) : InStep (readEscape (lower cs)) (readEscape cs) := by
  cases cs with
  | nil => exact ⟨rfl, rfl⟩
  | cons c r =>
    have same := isHexDigit_lowerChar c
    by_cases digit : isHexDigit c = true
    · have behind (n : Nat) : (lower (c :: r)).drop n = lower ((c :: r).drop n) := List.map_drop.symm
      rw [lower_cons, readEscape_of_digit (same.trans digit), readEscape_of_digit digit, ← lower_cons,
        escapeDigits_lower, hexNumber_lower, length_lower, behind, dropBlank_lower]
      exact ⟨rfl, rfl⟩
    · rw [lower_cons, readEscape_of_other (same ▸ digit), readEscape_of_other digit]
      exact ⟨lowerChar_written c, rfl⟩

theorem readNameChar_lower (cs : List Char) :
    Option.Rel InStep (readNameChar (lower cs)) (readNameChar cs) := by
  cases cs with
  | nil => exact .none
  | cons c r =>
    have escape : (lowerChar c == '\\') = (c == '\\') := beq_lowerChar (by decide) c
    have newline : startsWithNewline (lower r) = startsWithNewline r :=
      head?_any_lower isNewline_lowerChar r
    rw [lower_cons, readNameChar, readNameChar, escape, newline, continuesName_lowerChar]
    split
    · split
      · exact .none
      · exact .some (readEscape_lower r)
    · split
      · exact .some ⟨lowerChar_written c, rfl⟩
      · exact .none

theorem readNameChar_lower_eq_none (ends : readNameChar cs = none) : readNameChar (lower cs) = none := by
  have step := readNameChar_lower cs
  rw [ends] at step
  generalize readNameChar (lower cs) = small at step ⊢
  cases step
  rfl

theorem exists_readNameChar_lower (read : readNameChar cs = some (c, r)) :
    ∃ d, readNameChar (lower cs) = some (d, lower r) ∧ lowerChar d = lowerChar c := by
  have step := readNameChar_lower cs
  rw [read] at step
  generalize readNameChar (lower cs) = small at step ⊢
  cases step with
  | @some first _ inStep =>
    obtain ⟨d, t⟩ := first
    obtain ⟨same, left⟩ := inStep
    exact ⟨d, congrArg (fun t => some (d, t)) left, same⟩

theorem readName_of_none (ends : readNameChar cs = none) : readName cs = ([], cs) := by
  rw [readName]
  split
  · rfl
  · next c r read =>
    rw [ends] at read
    cases read

theorem readName_of_some (read : readNameChar cs = some (c, r)) :
    readName cs = (c :: (readName r).1, (readName r).2) := by
  rw [readName]
  split
  · next ends =>
    rw [read] at ends
    cases ends
  · next d t same =>
    cases read.symm.trans same
    rfl

/-- Names are read in lock step: both runs end here, or both go on with rests that are the same but for their
case. -/
theorem readName_lower (cs : List Char) :
    lower (readName (lower cs)).1 = lower (readName cs).1 ∧
      (readName (lower cs)).2 = lower (readName cs).2 := by
  fun_induction readName cs with
  | case1 cs ends =>
    rw [readName_of_none (readNameChar_lower_eq_none ends)]
    exact ⟨rfl, rfl⟩
  | case2 cs c r read shorter name rest more ih =>
    obtain ⟨d, small, same⟩ := exists_readNameChar_lower read
    rw [more] at ih
    rw [readName_of_some small]
    exact ⟨congrArg₂ List.cons same ih.1, ih.2⟩

/-! ## Filler -/

theorem onlyFiller_lower (inComment : Bool) (cs : List Char) :
    onlyFiller inComment (lower cs) = onlyFiller inComment cs := by
  fun_induction onlyFiller inComment cs with
  | case1 inComment => rfl
  | case2 r ih => exact ih
  | case3 c r noComment ih =>
    rw [lower_cons, onlyFiller]
    · rw [isCssBlank_lowerChar, ih]
    · exact lower_ne_pair (by decide) (by decide) noComment
  | case4 r ih => exact ih
  | case5 c r noEnd ih =>
    rw [lower_cons, onlyFiller]
    · exact ih
    · exact lower_ne_pair (by decide) (by decide) noEnd

/-! ## Tokens -/

/-- The token with its unit in small letters. -/
def Token.small : Token → Token
  | .dimension unit => .dimension (lower unit)
  | token => token

theorem readUnit_lower (cs : List Char) :
    (readUnit (lower cs)).1.small = (readUnit cs).1.small ∧
      (readUnit (lower cs)).2 = lower (readUnit cs).2 := by
  fun_cases readUnit cs with
  | case1 r => exact ⟨rfl, rfl⟩
  | case2 cs noPercent named name rest read =>
    obtain ⟨unit, left⟩ := readName_lower cs
    rw [readUnit, nameStartsAt_lower, if_pos named]
    · rw [read] at unit left
      exact ⟨congrArg Token.dimension unit, left⟩
    · exact lower_ne_cons (by decide) noPercent
  | case3 cs noPercent unnamed =>
    rw [readUnit, nameStartsAt_lower, if_neg unnamed]
    · exact ⟨rfl, rfl⟩
    · exact lower_ne_cons (by decide) noPercent

/-- First tokens are read in lock step. -/
theorem readToken_lower (cs : List Char) :
    (readToken (lower cs)).1.small = (readToken cs).1.small ∧
      (readToken (lower cs)).2 = lower (readToken cs).2 := by
  rw [readToken, readToken, dropSign_lower, digitsStartAt_lower, dropDigits_lower, dropExponent_lower]
  split
  · exact readUnit_lower _
  · exact ⟨rfl, rfl⟩

theorem hasUnit_small (units : List String) (token : Token) :
    token.small.hasUnit units = token.hasUnit units := by
  cases token with
  | dimension unit => simp [Token.small, Token.hasUnit, lower_lower]
  | number => rfl
  | percentage => rfl
  | other => rfl

theorem trimmed_lower : Trimmed isBlank (lower cs) ↔ Trimmed isBlank cs := by
  simp [Trimmed, lower, isBlank_lowerChar]

/-- Whether a text is a single token of some kind does not depend on case if the kind does not. -/
theorem isSingle_lower {accept : Token → Bool} (blind : ∀ token, accept token.small = accept token)
    (cs : List Char) : isSingle accept (lower cs) = isSingle accept cs := by
  obtain ⟨token, rest⟩ := readToken_lower cs
  have accepted : accept (readToken (lower cs)).1 = accept (readToken cs).1 := by
    rw [← blind, token, blind]
  have trimmed : trim isBlank (lower cs) = lower cs ↔ trim isBlank cs = cs := by
    rw [trim_eq_self_iff, trim_eq_self_iff, trimmed_lower]
  simp only [isSingle, rest, accepted, onlyFiller_lower, trimmed]

/-! ## Kinds of values -/

theorem isSingle_eq_of_lower {accept : Token → Bool} (blind : ∀ token, accept token.small = accept token)
    {ds : List Char} (same : lower cs = lower ds) : isSingle accept cs = isSingle accept ds := by
  rw [← isSingle_lower blind cs, same, isSingle_lower blind ds]

theorem any_marker_lower (cs : List Char) :
    (lower cs).any (fun c => c == 'e' || c == 'E') = cs.any fun c => c == 'e' || c == 'E' := by
  simp only [lower, List.any_map, Function.comp_def, marker_lowerChar]

/-- Texts that differ at most in the case of ASCII letters are values of the same kinds. Their first tokens
differ at most in the case of a unit, and so does what stands behind them. -/
theorem kinds_ignore_case (text other : String)
    (same : sameIgnoringCase text.toList other.toList = true) :
    isNumber text = isNumber other ∧ isPercentage text = isPercentage other ∧
      isLength text = isLength other ∧ isTime text = isTime other ∧
      (readToken text.toList).1.small = (readToken other.toList).1.small ∧
      sameIgnoringCase (readToken text.toList).2 (readToken other.toList).2 = true := by
  have folded : lower text.toList = lower other.toList := beq_iff_eq.mp same
  obtain ⟨token, rest⟩ := readToken_lower text.toList
  obtain ⟨token', rest'⟩ := readToken_lower other.toList
  rw [folded] at token rest
  refine ⟨?_, ?_, ?_, ?_, token.symm.trans token', ?_⟩
  · -- The letter of a power of ten is looked for in the whole text, also behind the token.
    have powers := any_marker_lower text.toList
    rw [folded, any_marker_lower] at powers
    rw [isNumber, isNumber, powers, isSingle_eq_of_lower _ folded]
    intro token
    cases token <;> rfl
  · refine isSingle_eq_of_lower (fun token => ?_) folded
    cases token <;> rfl
  · exact isSingle_eq_of_lower (hasUnit_small lengthUnits) folded
  · exact isSingle_eq_of_lower (hasUnit_small timeUnits) folded
  · exact beq_iff_eq.mpr (rest.symm.trans rest')

/-- A power of ten, the digits of an escape, a unit and a comment, all in the other case. -/
theorem kinds_ignore_case_of_seconds :
    sameIgnoringCase "2e3\\6D S/*a*/".toList "2E3\\6d s/*A*/".toList = true ∧
      isTime "2e3\\6D S/*a*/" = true ∧ isTime "2E3\\6d s/*A*/" = true := by
  have same : sameIgnoringCase "2e3\\6D S/*a*/".toList "2E3\\6d s/*A*/".toList = true := by
    decide +kernel
  have time : isTime "2e3\\6D S/*a*/" = true := by decide +kernel
  obtain ⟨-, -, -, times, -⟩ := kinds_ignore_case _ _ same
  exact ⟨same, time, times.symm.trans time⟩

end UtilityCss.Value
