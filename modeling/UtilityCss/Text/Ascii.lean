/-!
# ASCII letters and digits

Case folding and digit values for ASCII alone, as style sheets compare names. Letters outside ASCII
are never changed and never equal to an ASCII letter; no Unicode case mapping is claimed.
-/
namespace UtilityCss.Text

def isDigit (c : Char) : Bool := decide ('0' ≤ c) && decide (c ≤ '9')

def isUpper (c : Char) : Bool := decide ('A' ≤ c) && decide (c ≤ 'Z')

def isLower (c : Char) : Bool := decide ('a' ≤ c) && decide (c ≤ 'z')

def isLetter (c : Char) : Bool := isUpper c || isLower c

def isAscii (c : Char) : Bool := decide (c.toNat < 128)

/-- The lower-case letter of an ASCII capital; any other character is itself. -/
def lowerChar (c : Char) : Char :=
  if isUpper c then Char.ofNat (c.toNat + 32) else c

/-- The capital of an ASCII lower-case letter; any other character is itself. -/
def upperChar (c : Char) : Char :=
  if isLower c then Char.ofNat (c.toNat - 32) else c

def lower (cs : List Char) : List Char := cs.map lowerChar

/-- The texts differ at most in the case of ASCII letters. -/
def sameIgnoringCase (a b : List Char) : Bool := lower a == lower b

/-- The value of a decimal digit. -/
def digitValue? (c : Char) : Option Nat :=
  if isDigit c then some (c.toNat - 48) else none

/-- The value of a hexadecimal digit of either case. -/
def hexValue? (c : Char) : Option Nat :=
  if isDigit c then some (c.toNat - 48)
  else if decide ('a' ≤ c) && decide (c ≤ 'f') then some (c.toNat - 87)
  else if decide ('A' ≤ c) && decide (c ≤ 'F') then some (c.toNat - 55)
  else none

def isHexDigit (c : Char) : Bool := (hexValue? c).isSome

/-- The digit character of a value below ten. -/
def digitChar (d : Nat) : Char := Char.ofNat (48 + d)

/-- The lower-case hexadecimal digit of a value below sixteen. -/
def hexChar (d : Nat) : Char := if d < 10 then Char.ofNat (48 + d) else Char.ofNat (87 + d)

/-- The number written by decimal digits, first digit first; other characters count as zero. -/
def natOfDigits (cs : List Char) : Nat :=
  cs.foldl (fun n c => 10 * n + (digitValue? c).getD 0) 0

theorem hexValue?_hexChar : ∀ d < 16, hexValue? (hexChar d) = some d := by decide

theorem isDigit_digitChar : ∀ d < 10, isDigit (digitChar d) = true := by decide

theorem lower_append (a b : List Char) : lower (a ++ b) = lower a ++ lower b :=
  List.map_append

@[simp] theorem length_lower (a : List Char) : (lower a).length = a.length :=
  List.length_map ..

example : lower "ÀBç-Z9".toList = "Àbç-z9".toList := by decide

end UtilityCss.Text
