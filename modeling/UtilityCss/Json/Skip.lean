import UtilityCss.Json.Number
import UtilityCss.Json.Text

/-!
# Skipped values

A value that nobody asked for is checked for its form alone, at any depth. Its numbers may have any
size, and its strings any escape by code. The open brackets are kept in a list, so that depth costs no
stack.
-/
namespace UtilityCss.Json

open UtilityCss.Text

/-- An open bracket. -/
inductive Bracket where
  | list
  | record
  deriving DecidableEq, Repr

def Bracket.closing : Bracket → Char
  | .list => ']'
  | .record => '\x7d'

/-- Skips a value that is no list and no record. A number may not end with the text. -/
def skipScalar (cs : List Char) : Except (Fault (List Char)) (List Char) :=
  match cs with
  | [] => .error .unfinished
  | c :: r =>
    match c with
    | 'n' => expectWord "ull".toList r
    | 't' => expectWord "rue".toList r
    | 'f' => expectWord "alse".toList r
    | '"' => skipString r
    | c =>
      if c = '-' ∨ isDigit c then (Numeral.read .malformed cs).map Prod.snd
      else .error .malformed

/-- Insists on a colon. -/
def expectColon (cs : List Char) : Except (Fault (List Char)) (List Char) :=
  match skipBlank cs with
  | [] => .error .unfinished
  | ':' :: r => .ok r
  | _ => .error .malformed

/-- Skips a key with its colon. -/
def skipKey (cs : List Char) : Except (Fault (List Char)) (List Char) :=
  match skipBlank cs with
  | [] => .error .unfinished
  | '"' :: r => do expectColon (← skipString r)
  | _ => .error .malformed

/-- Passes the closing brackets behind a value, and the comma and key before the next one. With no
bracket left open no further value follows. -/
def passClosings : List Bracket → List Char →
    Except (Fault (List Char)) (List Bracket × List Char)
  | [], cs => .ok ([], cs)
  | b :: outer, cs =>
    match skipBlank cs with
    | [] => .error .unfinished
    | c :: r =>
      if c = ',' then do
        match b with
        | .list => .ok (b :: outer, r)
        | .record => .ok (b :: outer, ← skipKey r)
      else if c = b.closing then passClosings outer r
      else .error .malformed

/-- Skips a value inside open brackets and all that follows up to the last closing one. Each step
passes a character, so the length of the text bounds their number. -/
def skipInside : Nat → List Bracket → List Char → Except (Fault (List Char)) (List Char)
  | 0, _, _ => .error .malformed
  | steps + 1, outer, cs => do
    let next ← match skipBlank cs with
      | '[' :: r =>
        match skipBlank r with
        | ']' :: r => passClosings outer r
        | r => .ok (.list :: outer, r)
      | '\x7b' :: r =>
        match skipBlank r with
        | '\x7d' :: r => passClosings outer r
        | r => do .ok (.record :: outer, ← skipKey r)
      | r => do passClosings outer (← skipScalar r)
    match next with
    | ([], rest) => .ok rest
    | (outer, rest) => skipInside steps outer rest

/-- Skips one value. -/
def skipValue (cs : List Char) : Except (Fault (List Char)) (List Char) :=
  skipInside (cs.length + 1) [] cs

example : skipValue " [1, [], \x7b\"a\": [null]\x7d], 2".toList = .ok ", 2".toList := by cbv

example : ["[1,]", "\x7b1:2\x7d", "[1 2]", "[\x7d", "1.", "tru1"].map (fun t => skipValue t.toList) =
    List.replicate 6 (.error .malformed) := by cbv

example : ["[1,", "\x7b\"a\"", "[[", "tr", " "].map (fun t => skipValue t.toList) =
    List.replicate 5 (.error .unfinished) := by cbv

end UtilityCss.Json
