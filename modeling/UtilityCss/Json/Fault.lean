/-!
# Why a JSON text is not read

A text may end too early, may not be JSON, or may be JSON of another form than is asked for. Only the
last has a reason in words and a place. Reading goes from left to right and stops at the first fault.
-/
namespace UtilityCss.Json

/-- A fault, with the place of a mismatch. -/
inductive Fault (π : Type) where
  | unfinished
  | malformed
  | mismatch (reason : String) (place : π)
  deriving DecidableEq, Repr

/-- Reads a value from the front of a text and returns what follows. While reading, a place is the
text that follows it. -/
abbrev Reader (α : Type) := List Char → Except (Fault (List Char)) (α × List Char)

/-- A line from one on, and the bytes of that line up to the place. -/
structure Position where
  line : Nat
  column : Nat
  deriving DecidableEq, Repr

def byteCount (cs : List Char) : Nat := cs.foldr (fun c n => c.utf8Size + n) 0

/-- The place behind a text. -/
def Position.behind (cs : List Char) : Position :=
  ⟨cs.count '\n' + 1, byteCount (cs.reverse.takeWhile (· != '\n'))⟩

/-- Places a fault by the text that was read. -/
def Fault.locate (text : List Char) : Fault (List Char) → Fault Position
  | .unfinished => .unfinished
  | .malformed => .malformed
  | .mismatch reason rest =>
    .mismatch reason (.behind (text.take (text.length - rest.length)))

/-- What is wrong, without its place. -/
def Fault.reason {π : Type} : Fault π → String
  | .unfinished => "unfinished text"
  | .malformed => "malformed text"
  | .mismatch reason _ => reason

/-- What is wrong, with its place. -/
def Fault.message (f : Fault Position) : String :=
  match f with
  | .mismatch reason p =>
    reason ++ " at line " ++ toString p.line ++ " column " ++ toString p.column
  | f => f.reason

example : Position.behind "\x7b\n é".toList = ⟨2, 3⟩ := by decide +kernel

end UtilityCss.Json
