import UtilityCss.Proofs.Decimal.Plain
import UtilityCss.Value.Kind

/-!
# Which texts are numbers

A number is a plain decimal with white space and comments behind it. No letter of a power of ten may stand
anywhere in the text, not even in a comment, and no blank at its ends. The value of a number can be read
exactly if nothing stands behind the decimal.
-/
namespace UtilityCss.Value

open UtilityCss.Text
open UtilityCss.Decimal (IsSign IsDigits IsPlain EndsDigits)

/-- The end of a comment. -/
def commentEnd : List Char := ['*', '/']

/-- White space and comments in any order. The last comment may be open at the end. -/
inductive IsFiller : List Char → Prop where
  | done : IsFiller []
  | blank {c : Char} {r : List Char} (white : isCssBlank c = true) (more : IsFiller r) :
      IsFiller (c :: r)
  | comment {body r : List Char} (inside : ¬ commentEnd <:+: body) (more : IsFiller r) :
      IsFiller ('/' :: '*' :: (body ++ (commentEnd ++ r)))
  | openComment {body : List Char} (inside : ¬ commentEnd <:+: body) :
      IsFiller ('/' :: '*' :: body)

/-- What may follow inside of a comment: its end and more filler, or no end. -/
def GoesOn (cs : List Char) : Prop :=
  ¬ commentEnd <:+: cs ∨
    ∃ body r, ¬ commentEnd <:+: body ∧ IsFiller r ∧ cs = body ++ (commentEnd ++ r)

variable {cs r sign number run : List Char} {c : Char}

/-! ## White space and comments -/

theorem isFiller_comment_iff : IsFiller ('/' :: '*' :: cs) ↔ GoesOn cs := by
  constructor
  · intro filler
    cases filler with
    | blank white more => exact absurd white (by decide)
    | @comment body r inside more => exact Or.inr ⟨body, r, inside, more, rfl⟩
    | openComment inside => exact Or.inl inside
  · rintro (inside | ⟨body, r, inside, more, rfl⟩)
    · exact .openComment inside
    · exact .comment inside more

/-- A character that does not begin a comment has to be a blank. -/
theorem isFiller_cons_iff (noComment : ∀ r', c = '/' → r = '*' :: r' → False) :
    IsFiller (c :: r) ↔ isCssBlank c = true ∧ IsFiller r := by
  constructor
  · intro filler
    cases filler with
    | blank white more => exact ⟨white, more⟩
    | comment inside more => exact absurd rfl (noComment _ rfl)
    | openComment inside => exact absurd rfl (noComment _ rfl)
  · rintro ⟨white, more⟩
    exact .blank white more

theorem commentEnd_infix_cons_iff (noEnd : ∀ r', c = '*' → r = '/' :: r' → False) :
    commentEnd <:+: c :: r ↔ commentEnd <:+: r := by
  have noPrefix : ¬ commentEnd <+: c :: r := by
    rintro ⟨r', same⟩
    cases same
    exact noEnd r' rfl rfl
  rw [List.infix_cons_iff, or_iff_right noPrefix]

/-- The end of a comment closes it at once. -/
theorem goesOn_commentEnd_iff : GoesOn ('*' :: '/' :: r) ↔ IsFiller r := by
  constructor
  · rintro (inside | ⟨body, rest, inside, more, same⟩)
    · exact absurd ((List.prefix_append commentEnd r).isInfix) inside
    · match body with
      | [] => 
        cases same
        exact more
      | [a] =>
        cases same
      | a :: b :: body =>
        cases same
        exact absurd ((List.prefix_append commentEnd body).isInfix) inside
  · intro more
    exact Or.inr ⟨[], r, by simp [commentEnd], more, rfl⟩

/-- Any other character belongs to the comment. -/
theorem goesOn_cons_iff (noEnd : ∀ r', c = '*' → r = '/' :: r' → False) :
    GoesOn (c :: r) ↔ GoesOn r := by
  constructor
  · rintro (inside | ⟨body, rest, inside, more, same⟩)
    · rw [commentEnd_infix_cons_iff noEnd] at inside
      exact Or.inl inside
    · cases body with
      | nil =>
        cases same
        exact absurd rfl (noEnd rest rfl)
      | cons a body =>
        cases same
        exact Or.inr ⟨body, rest, fun early => inside (List.infix_cons early), more, rfl⟩
  · rintro (inside | ⟨body, rest, inside, more, rfl⟩)
    · exact Or.inl (by rwa [commentEnd_infix_cons_iff noEnd])
    · refine Or.inr ⟨c :: body, rest, ?_, more, rfl⟩
      rwa [commentEnd_infix_cons_iff fun r' first next => noEnd _ first (by rw [next]; rfl)]

/-- The scan for filler accepts filler, and inside of a comment what may follow there. -/
theorem onlyFiller_iff (inComment : Bool) (cs : List Char) :
    onlyFiller inComment cs = true ↔ if inComment then GoesOn cs else IsFiller cs := by
  fun_induction onlyFiller inComment cs with
  | case1 inComment => 
    cases inComment with
    | false => exact iff_of_true rfl .done
    | true => exact iff_of_true rfl (Or.inl (by decide))
  | case2 r ih => exact ih.trans isFiller_comment_iff.symm
  | case3 c r noComment ih =>
    rw [Bool.and_eq_true, ih]
    exact (isFiller_cons_iff noComment).symm
  | case4 r ih => exact ih.trans goesOn_commentEnd_iff.symm
  | case5 c r noEnd ih => exact ih.trans (goesOn_cons_iff noEnd).symm

/-- The characters that filler can start with. -/
def fillerStarts : List Char := [' ', '\t', '\n', '\x0c', '\r', '/']

theorem of_mem_fillerStarts {P : Char → Prop} [DecidablePred P]
    (all : (fillerStarts.all fun c => decide (P c)) = true) : ∀ c ∈ fillerStarts, P c := by
  intro c inside
  exact of_decide_eq_true (List.all_eq_true.mp all c inside)

theorem IsFiller.mem_fillerStarts (filler : IsFiller run) : ∀ c ∈ run.head?, c ∈ fillerStarts := by
  intro c first
  cases filler with
  | done => cases first
  | blank white more =>
    cases first
    simpa [isCssBlank, fillerStarts, or_assoc] using Or.inl white
  | comment inside more =>
    cases first
    decide
  | openComment inside =>
    cases first
    decide

theorem IsFiller.endsDigits (filler : IsFiller run) : EndsDigits run := by
  intro c first
  have other : ∀ c ∈ fillerStarts, isDigit c = false ∧ c ≠ '.' := of_mem_fillerStarts (by decide)
  exact other c (filler.mem_fillerStarts c first)

/-- Filler is no power of ten. -/
theorem IsFiller.noPower (filler : IsFiller run) : ∀ c ∈ run.head?, c ≠ 'e' ∧ c ≠ 'E' := by
  intro c first
  have other : ∀ c ∈ fillerStarts, c ≠ 'e' ∧ c ≠ 'E' := of_mem_fillerStarts (by decide)
  exact other c (filler.mem_fillerStarts c first)

/-! ## The first token -/

/-- A number ends where filler begins. -/
theorem readUnit_of_isFiller (filler : IsFiller run) : readUnit run = (.number, run) := by
  cases run with
  | nil => rfl
  | cons c r =>
    have other : ∀ c ∈ fillerStarts, c ≠ '%' ∧ c ≠ '\\' ∧ c ≠ '-' ∧ startsName c = false :=
      of_mem_fillerStarts (by decide)
    obtain ⟨noPercent, noEscape, noHyphen, noName⟩ := other c (filler.mem_fillerStarts c rfl)
    have unnamed : nameStartsAt (c :: r) = false := by
      rw [nameStartsAt]
      · exact noName
      · exact noEscape
      · exact fun _ first _ => noHyphen first
      · exact fun _ _ first _ => noHyphen first
    simp [readUnit, noPercent, unnamed]

/-- Behind a number nothing is read. -/
theorem readUnit_of_number (token : (readUnit cs).1 = .number) : readUnit cs = (.number, cs) := by
  revert token
  fun_cases readUnit cs with
  | case1 r => nofun
  | case2 cs noPercent named name rest => nofun
  | case3 cs noPercent unnamed => exact fun _ => rfl

theorem dropExponent_eq_self (noPower : ∀ c ∈ cs.head?, c ≠ 'e' ∧ c ≠ 'E') :
    dropExponent cs = cs := by
  cases cs with
  | nil => rfl
  | cons c r =>
    have other := noPower c rfl
    simp [dropExponent, other]

/-- Both readers of numbers take the same sign. -/
theorem dropSign_eq (cs : List Char) : dropSign cs = (Decimal.splitSign cs).2 := by
  fun_cases dropSign cs with
  | case1 r => rfl
  | case2 r => rfl
  | case3 cs noPlus noMinus =>
    rw [Decimal.splitSign]
    · exact noMinus
    · exact noPlus

theorem exists_sign (cs : List Char) : ∃ sign, IsSign sign ∧ cs = sign ++ dropSign cs := by
  unfold dropSign
  split
  · exact ⟨_, .plus, rfl⟩
  · exact ⟨_, .minus, rfl⟩
  · exact ⟨_, .absent, rfl⟩

/-! ## Digits -/

theorem digitsStartAt_cons (digit : isDigit c = true) : digitsStartAt (c :: r) = true := by
  have noPoint : c ≠ '.' := by
    rintro rfl
    exact absurd digit (by decide)
  rw [digitsStartAt]
  · exact digit
  · exact fun _ _ first _ => noPoint first

theorem digitsStartAt_of_isPlain (plain : IsPlain number) (rest : List Char) :
    digitsStartAt (number ++ rest) = true := by
  cases plain with
  | whole digits =>
    obtain ⟨c, r, rfl⟩ := List.exists_cons_of_ne_nil digits.1
    exact digitsStartAt_cons (digits.2 c List.mem_cons_self)
  | @fraction before behind optional digits =>
    cases before with
    | nil =>
      obtain ⟨c, r, rfl⟩ := List.exists_cons_of_ne_nil digits.1
      exact digits.2 c List.mem_cons_self
    | cons c r => exact digitsStartAt_cons (optional c List.mem_cons_self)

theorem dropDigits_of_isPlain (plain : IsPlain number) (ends : EndsDigits run) :
    dropDigits (number ++ run) = run := by
  cases plain with
  | whole digits =>
    rw [dropDigits, dropWhile_append_eq digits.2 ends.noDigit]
    cases run with
    | nil => rfl
    | cons c r =>
      have noPoint : c ≠ '.' := (ends c rfl).2
      simp [noPoint]
  | @fraction before behind optional digits =>
    have point : ∀ c ∈ ('.' :: (behind ++ run)).head?, isDigit c = false := by
      rintro c ⟨⟩
      decide
    obtain ⟨c, r, rfl⟩ := List.exists_cons_of_ne_nil digits.1
    have first : isDigit c = true := digits.2 c List.mem_cons_self
    have others : ∀ a ∈ r, isDigit a = true := fun a inside => digits.2 a (List.mem_cons_of_mem c inside)
    rw [List.append_assoc, List.cons_append, dropDigits, dropWhile_append_eq optional point]
    simp [first, dropWhile_append_eq others ends.noDigit]

/-- Without a digit in front, a number starts with the point. -/
theorem exists_point (starts : digitsStartAt cs = true)
    (noDigit : ∀ c ∈ cs.head?, isDigit c = false) :
    ∃ c r, cs = '.' :: c :: r ∧ isDigit c = true := by
  revert starts
  fun_cases digitsStartAt cs with
  | case1 c r => exact fun digit => ⟨c, r, rfl, digit⟩
  | case2 c r noPoint => exact fun digit => absurd digit (by simp [noDigit c rfl])
  | case3 => nofun

/-- The digits that are dropped are a plain decimal. -/
theorem exists_isPlain (starts : digitsStartAt cs = true) :
    ∃ number, IsPlain number ∧ cs = number ++ dropDigits cs := by
  have digits : ∀ c ∈ cs.takeWhile isDigit, isDigit c = true := fun c => List.mem_takeWhile_imp
  have parts : cs = cs.takeWhile isDigit ++ cs.dropWhile isDigit :=
    List.takeWhile_append_dropWhile.symm
  have filled : (¬ ∃ c r, cs.dropWhile isDigit = '.' :: c :: r ∧ isDigit c = true) →
      IsPlain (cs.takeWhile isDigit) := by
    refine fun pointless => .whole ⟨fun empty => pointless ?_, digits⟩
    rw [empty, List.nil_append] at parts
    rw [parts] at starts
    exact exists_point starts (head_dropWhile cs)
  fun_cases dropDigits cs with
  | case1 c r behind digit =>
    have first : ∀ a ∈ c :: r.takeWhile isDigit, isDigit a = true :=
      List.forall_mem_cons.mpr ⟨digit, fun a => List.mem_takeWhile_imp⟩
    refine ⟨_, .fraction digits ⟨List.cons_ne_nil c _, first⟩, ?_⟩
    rw [List.append_assoc, List.cons_append, List.cons_append, List.takeWhile_append_dropWhile,
      ← behind]
    exact parts
  | case2 c r behind noDigit =>
    refine ⟨_, filled ?_, behind ▸ parts⟩
    rintro ⟨d, s, same, digit⟩
    cases behind.symm.trans same
    exact noDigit digit
  | case3 other => exact ⟨_, filled fun ⟨c, r, behind, _⟩ => other c r behind, parts⟩

/-! ## Numbers -/

/-- A plain decimal with a sign or none, and the filler that is left behind it. -/
def NumberThen (cs run : List Char) : Prop :=
  ∃ sign number, IsSign sign ∧ IsPlain number ∧ IsFiller run ∧ cs = sign ++ number ++ run

/-- A plain decimal is read up to its unit. -/
theorem readToken_of_isPlain (isSign : IsSign sign) (plain : IsPlain number) (ends : EndsDigits cs)
    (noPower : ∀ c ∈ cs.head?, c ≠ 'e' ∧ c ≠ 'E') :
    readToken (sign ++ number ++ cs) = readUnit cs := by
  have body : dropSign (sign ++ number ++ cs) = number ++ cs := by
    rw [dropSign_eq, Decimal.splitSign_of_isSign isSign plain]
  rw [readToken, body, digitsStartAt_of_isPlain plain, dropDigits_of_isPlain plain ends,
    dropExponent_eq_self noPower]
  rfl

/-- A plain decimal is the first token, and the filler is left. -/
theorem readToken_of_numberThen (parts : NumberThen cs run) : readToken cs = (.number, run) := by
  obtain ⟨sign, number, isSign, plain, filler, rfl⟩ := parts
  rw [readToken_of_isPlain isSign plain filler.endsDigits filler.noPower, readUnit_of_isFiller filler]

/-- Without the letter of a power of ten a number is a plain decimal. -/
theorem numberThen_of_readToken (noPower : 'e' ∉ cs ∧ 'E' ∉ cs)
    (token : (readToken cs).1 = .number) (filler : IsFiller (readToken cs).2) :
    NumberThen cs (readToken cs).2 := by
  obtain ⟨sign, isSign, signed⟩ := exists_sign cs
  have starts : digitsStartAt (dropSign cs) = true := by
    by_contra other
    rw [readToken, if_neg other] at token
    cases token
  obtain ⟨number, plain, body⟩ := exists_isPlain starts
  have whole : cs = sign ++ number ++ dropDigits (dropSign cs) := by
    rw [List.append_assoc, ← body]
    exact signed
  have kept : dropExponent (dropDigits (dropSign cs)) = dropDigits (dropSign cs) := by
    refine dropExponent_eq_self fun c first => ?_
    have inside : c ∈ cs := by
      rw [whole]
      exact List.mem_append_right _ (List.mem_of_mem_head? first)
    exact ⟨fun small => noPower.1 (small ▸ inside), fun capital => noPower.2 (capital ▸ inside)⟩
  have unit : readToken cs = readUnit (dropDigits (dropSign cs)) := by
    rw [readToken, if_pos starts, kept]
  rw [unit] at token filler ⊢
  rw [readUnit_of_number token] at filler ⊢
  exact ⟨sign, number, isSign, plain, filler, whole⟩

/-- A text is a single token if that is its first, nothing but filler follows, and it has no blank ends. -/
theorem isSingle_iff {accept : Token → Bool} :
    isSingle accept cs = true ↔
      Trimmed isBlank cs ∧ accept (readToken cs).1 = true ∧ IsFiller (readToken cs).2 := by
  have filler : onlyFiller false (readToken cs).2 = true ↔ IsFiller (readToken cs).2 :=
    onlyFiller_iff false _
  simp only [isSingle, Bool.and_eq_true, decide_eq_true_eq, trim_eq_self_iff, filler, and_assoc]

theorem isNumber_iff {text : String} :
    isNumber text = true ↔ ('e' ∉ text.toList ∧ 'E' ∉ text.toList) ∧
      Trimmed isBlank text.toList ∧ ∃ run, NumberThen text.toList run := by
  have letters : (!text.toList.any fun c => c == 'e' || c == 'E') = true ↔
      'e' ∉ text.toList ∧ 'E' ∉ text.toList := by
    simp only [Bool.not_eq_true', List.any_eq_false, Bool.or_eq_true, beq_iff_eq, not_or]
    exact ⟨fun apart => ⟨fun small => (apart _ small).1 rfl, fun capital => (apart _ capital).2 rfl⟩,
      fun absent c inside => ⟨fun small => absent.1 (small ▸ inside),
        fun capital => absent.2 (capital ▸ inside)⟩⟩
  rw [isNumber, Bool.and_eq_true, letters, isSingle_iff]
  refine and_congr_right fun noPower => and_congr_right fun _ => ?_
  constructor
  · rintro ⟨token, filler⟩
    exact ⟨_, numberThen_of_readToken noPower (by simpa using token) filler⟩
  · rintro ⟨run, parts⟩
    rw [readToken_of_numberThen parts]
    obtain ⟨-, -, -, -, filler, -⟩ := parts
    exact ⟨rfl, filler⟩

/-- What stands behind a number is determined by the text. -/
theorem NumberThen.unique {other : List Char} (first : NumberThen cs run)
    (second : NumberThen cs other) : run = other := by
  have same := (readToken_of_numberThen first).symm.trans (readToken_of_numberThen second)
  exact congrArg Prod.snd same

theorem exists_numberValue_iff {text : String} :
    (∃ x, numberValue text = .ok x) ↔
      isNumber text = true ∧ (Decimal.Numeral.ofText? text.toList).isSome := by
  rw [numberValue, Decimal.float?]
  cases isNumber text <;> cases Decimal.Numeral.ofText? text.toList <;> simp

/-- A plain decimal can be read if there is no filler behind it. -/
theorem NumberThen.isSome_ofText?_iff (parts : NumberThen cs run) :
    (Decimal.Numeral.ofText? cs).isSome ↔ run = [] := by
  obtain ⟨sign, number, isSign, plain, filler, rfl⟩ := parts
  exact Decimal.isSome_ofText?_iff isSign plain filler.endsDigits filler.noPower

/-- A text is a number exactly if it is a plain decimal, with a sign or without, and filler, holds no letter
of a power of ten and has no blank ends. Its value can be read exactly if there is no filler. -/
theorem number_grammar (text : String) :
    (isNumber text = true ↔ ('e' ∉ text.toList ∧ 'E' ∉ text.toList) ∧
      Trimmed isBlank text.toList ∧ ∃ run, NumberThen text.toList run) ∧
    ((∃ x, numberValue text = .ok x) ↔
      isNumber text = true ∧ ∀ run, NumberThen text.toList run → run = []) := by
  refine ⟨isNumber_iff, ?_⟩
  rw [exists_numberValue_iff]
  refine and_congr_right fun number => ?_
  obtain ⟨-, -, run, parts⟩ := isNumber_iff.mp number
  rw [parts.isSome_ofText?_iff]
  constructor
  · intro bare other again
    exact (again.unique parts).trans bare
  · intro bare
    exact bare run parts

example : isNumber "-.5/* a *//*" = true ∧ isNumber "1./**/" = false := by cbv

end UtilityCss.Value
