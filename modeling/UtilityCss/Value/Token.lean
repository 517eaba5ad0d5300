import UtilityCss.Text.Ascii
import UtilityCss.Text.Blank

/-!
# The first token of a style sheet value

Only numeric tokens are told apart: numbers, percentages and dimensions with their unit; every other
token is one case. A unit is a name, in which escapes are decoded. The reader works on characters and
returns what it has not read. Strings, urls and other tokens are not modelled.
-/
namespace UtilityCss.Value

open UtilityCss.Text

inductive Token where
  | number
  | percentage
  | dimension (unit : List Char)
  | other
  deriving DecidableEq, Repr

/-- Stands for characters that cannot be written: NUL, surrogates and codes beyond Unicode. -/
def replacement : Char := '\uFFFD'

def isNewline (c : Char) : Bool := c == '\n' || c == '\r' || c == '\x0c'

def startsWithNewline (cs : List Char) : Bool := cs.head?.any isNewline

/-- A character that may start a name: a letter, an underscore, NUL or anything beyond ASCII. -/
def startsName (c : Char) : Bool :=
  isLetter c || c == '_' || c == '\x00' || !isAscii c

def continuesName (c : Char) : Bool := startsName c || isDigit c || c == '-'

/-- A name starts here. Behind a hyphen a backslash always counts, whatever follows it. -/
def nameStartsAt : List Char → Bool
  | '\\' :: r => !startsWithNewline r
  | '-' :: '\\' :: _ => true
  | '-' :: c :: _ => startsName c || c == '-'
  | c :: _ => startsName c
  | [] => false

/-- The number written by hexadecimal digits. -/
def hexNumber (cs : List Char) : Nat := cs.foldl (fun n c => 16 * n + (hexValue? c).getD 0) 0

def charOfCode (n : Nat) : Char :=
  if n ≠ 0 ∧ n.isValidChar then Char.ofNat n else replacement

/-- Drops one white space character; a carriage return and a line feed count as one. -/
def dropBlank : List Char → List Char
  | '\r' :: '\n' :: r => r
  | c :: r => if isCssBlank c then r else c :: r
  | [] => []

/-- Reads what stands behind a backslash: up to six hexadecimal digits and one white space, or any
other character for itself. -/
def readEscape (cs : List Char) : Char × List Char :=
  let hex := (cs.take 6).takeWhile isHexDigit
  match cs with
  | [] => (replacement, [])
  | c :: r =>
    if hex.isEmpty then (if c == '\x00' then replacement else c, r)
    else (charOfCode (hexNumber hex), dropBlank (cs.drop hex.length))

/-- Reads one character of a name. -/
def readNameChar : List Char → Option (Char × List Char)
  | [] => none
  | c :: r =>
    if c == '\\' then if startsWithNewline r then none else some (readEscape r)
    else if continuesName c then some (if c == '\x00' then replacement else c, r)
    else none

theorem length_dropBlank_le (cs : List Char) : (dropBlank cs).length ≤ cs.length := by
  unfold dropBlank
  split
  · simp only [List.length_cons]; omega
  · split <;> simp
  · simp

theorem length_readEscape_le (cs : List Char) : (readEscape cs).2.length ≤ cs.length := by
  unfold readEscape
  cases cs with
  | nil => simp
  | cons c r =>
    simp only
    split
    · simp
    · refine Nat.le_trans (length_dropBlank_le _) ?_
      simp

theorem length_readNameChar_lt {cs r : List Char} {c : Char} (h : readNameChar cs = some (c, r)) :
    r.length < cs.length := by
  cases cs with
  | nil => simp [readNameChar] at h
  | cons a t =>
    have he := length_readEscape_le t
    simp only [readNameChar] at h
    split at h
    · split at h
      · simp at h
      · simp only [Option.some.injEq] at h
        rw [h] at he
        exact Nat.lt_succ_of_le he
    · split at h
      · simp only [Option.some.injEq, Prod.mk.injEq] at h
        simp [← h.2]
      · simp at h

/-- Reads the longest name, decoded, and returns what follows it. -/
def readName (cs : List Char) : List Char × List Char :=
  match h : readNameChar cs with
  | none => ([], cs)
  | some (c, r) =>
    have := length_readNameChar_lt h
    let (name, rest) := readName r
    (c :: name, rest)
termination_by cs.length

/-- Drops a sign. -/
def dropSign : List Char → List Char
  | '+' :: r => r
  | '-' :: r => r
  | cs => cs

/-- A digit, or a point and a digit, stands here. -/
def digitsStartAt : List Char → Bool
  | '.' :: c :: _ => isDigit c
  | c :: _ => isDigit c
  | [] => false

/-- Drops digits and, if a point with a digit follows, these digits too. -/
def dropDigits (cs : List Char) : List Char :=
  match cs.dropWhile isDigit with
  | '.' :: c :: r => if isDigit c then r.dropWhile isDigit else '.' :: c :: r
  | r => r

/-- Drops a power of ten: a marker, a sign or none, and at least one digit. -/
def dropExponent : List Char → List Char
  | c :: r =>
    if (c == 'e' || c == 'E') && (dropSign r).head?.any isDigit then
      (dropSign r).dropWhile isDigit
    else c :: r
  | [] => []

/-- Reads the unit behind a number. -/
def readUnit : List Char → Token × List Char
  | '%' :: r => (.percentage, r)
  | cs =>
    if nameStartsAt cs then
      let (name, rest) := readName cs
      (.dimension name, rest)
    else (.number, cs)

/-- The first token and the text behind it; behind a token that is not numeric nothing is read. -/
def readToken (cs : List Char) : Token × List Char :=
  let body := dropSign cs
  if digitsStartAt body then readUnit (dropExponent (dropDigits body)) else (.other, cs)

/-- Only white space and comments are left. The last comment may be open at the end. -/
def onlyFiller (inComment : Bool) : List Char → Bool
  | [] => true
  | c :: r =>
    match inComment, c, r with
    | false, '/', '*' :: t => onlyFiller true t
    | false, c, r => isCssBlank c && onlyFiller false r
    | true, '*', '/' :: t => onlyFiller false t
    | true, _, r => onlyFiller true r

/-- The text is one token that is accepted, with nothing but white space and comments behind it. A
text with white space at either end has no single token. -/
def isSingle (accept : Token → Bool) (cs : List Char) : Bool :=
  let (token, rest) := readToken cs
  decide (trim isBlank cs = cs) && accept token && onlyFiller false rest

example : readToken "-1.5e3Re\\6D x%".toList = (.dimension "Remx".toList, ['%']) := by cbv

example : readToken "4e".toList = (.dimension ['e'], []) := by cbv

example : readToken "1.".toList = (.number, ['.']) := by cbv

example : readToken "+.5%".toList = (.percentage, []) := by cbv

example : onlyFiller false " /* a */\t/* b".toList = true ∧ onlyFiller false "/ *".toList = false := by
  decide

end UtilityCss.Value
