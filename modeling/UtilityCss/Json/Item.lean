import UtilityCss.Decimal.Text
import UtilityCss.Json.Number
import UtilityCss.Json.Text
import UtilityCss.Text.Quoted

/-!
# What a JSON value begins with

A mismatch names what was found. Words, numbers and strings are read as a whole for that, of lists and
records only the opening bracket is looked at.
-/
namespace UtilityCss.Json

open UtilityCss.Text

/-- A value as far as a mismatch shows it. -/
inductive Item where
  | null
  | boolean (value : Bool)
  | number (value : Number)
  | string (value : String)
  | list
  | record

def Item.describe : Item → String
  | .null => "null"
  | .boolean b => "boolean `" ++ toString b ++ "`"
  | .number (.integer i) => "integer `" ++ toString i ++ "`"
  | .number (.real x) => "floating point `" ++ Decimal.annotatedFloat x ++ "`"
  | .string s => "string " ++ quoted s
  | .list => "sequence"
  | .record => "map"

/-- Reads what stands here; the bracket of a list or record is not passed. -/
def Item.read : Reader Item := fun cs =>
  match cs with
  | [] => .error .unfinished
  | c :: r =>
    match c with
    | 'n' => (expectWord "ull".toList r).map fun rest => (.null, rest)
    | 't' => (expectWord "rue".toList r).map fun rest => (.boolean true, rest)
    | 'f' => (expectWord "alse".toList r).map fun rest => (.boolean false, rest)
    | '"' => (stringBody r).map fun (s, rest) => (.string s, rest)
    | '[' => .ok (.list, cs)
    | '\x7b' => .ok (.record, cs)
    | c =>
      if c = '-' ∨ isDigit c then (Number.read cs).map fun (n, rest) => (.number n, rest)
      else .error .malformed

/-- Refuses a value that is not what is expected. -/
def Item.refuse {α : Type} (item : Item) (expected : String) (rest : List Char) :
    Except (Fault (List Char)) α :=
  .error (.mismatch ("invalid type: " ++ item.describe ++ ", expected " ++ expected) rest)

/-- Reads a value that is no list and no record. -/
def scalar {α : Type} (expected : String) (value? : Item → Option α) : Reader α := fun cs => do
  let (item, rest) ← Item.read (skipBlank cs)
  match value? item with
  | some a => .ok (a, rest)
  | none => item.refuse expected rest

def Item.string? : Item → Option String
  | .string s => some s
  | _ => none

def Item.number? : Item → Option Number
  | .number n => some n
  | _ => none

def Item.null? : Item → Option Unit
  | .null => some ()
  | _ => none

def string : Reader String := scalar "a string" Item.string?

def float : Reader Float := scalar "f64" fun i => i.number?.map Number.toFloat

def float32 : Reader Float32 := scalar "f32" fun i => i.number?.map Number.toFloat32

example : string " [1]".toList =
    .error (.mismatch "invalid type: sequence, expected a string" "[1]".toList) := by rfl

example : string "true,".toList =
    .error (.mismatch "invalid type: boolean `true`, expected a string" [',']) := by rfl

end UtilityCss.Json
