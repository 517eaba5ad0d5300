import UtilityCss.Json.Item
import UtilityCss.Json.Skip

/-!
# Records and maps

A record has known fields, all of which may be missing. It is given by name, in any order and with
unknown fields among the known ones, or as a list of its first fields in order. A map has texts as
keys, keeps their order, and leaves it to the caller what a repeated key means.
-/
namespace UtilityCss.Json

/-- Where a list or record goes on: with an entry, or behind its closing bracket. -/
inductive Onward where
  | entry (rest : List Char)
  | closed (rest : List Char)

/-- Goes to the next key of a record, behind its opening quote. -/
def nextKey (first : Bool) (cs : List Char) : Except (Fault (List Char)) Onward :=
  match skipBlank cs with
  | [] => .error .unfinished
  | '\x7d' :: r => .ok (.closed r)
  | '"' :: r => if first then .ok (.entry r) else .error .malformed
  | ',' :: r =>
    if first then .error .malformed
    else
      match skipBlank r with
      | [] => .error .unfinished
      | '"' :: r => .ok (.entry r)
      | _ => .error .malformed
  | _ => .error .malformed

/-- Goes to the next element of a list. -/
def nextElement (first : Bool) (cs : List Char) : Except (Fault (List Char)) Onward :=
  match skipBlank cs with
  | [] => .error .unfinished
  | ']' :: r => .ok (.closed r)
  | ',' :: r =>
    if first then .error .malformed
    else
      match skipBlank r with
      | [] => .error .unfinished
      | ']' :: _ => .error .malformed
      | r => .ok (.entry r)
  | r => if first then .ok (.entry r) else .error .malformed

/-- Insists on the end of a list. -/
def expectListEnd (cs : List Char) : Except (Fault (List Char)) (List Char) :=
  match skipBlank cs with
  | [] => .error .unfinished
  | ']' :: r => .ok r
  | _ => .error .malformed

/-- A field of a record: its name, further names, and how its value is read into the record. -/
structure Field (σ : Type) where
  name : String
  others : List String
  readInto : σ → Reader σ

/-- The field whose value is read by `read` and stored by `set`. -/
def Field.of {σ α : Type} (name : String) (others : List String) (read : Reader α)
    (set : σ → α → σ) : Field σ :=
  ⟨name, others, fun s cs => (read cs).map fun (a, rest) => (set s a, rest)⟩

def Field.isCalled {σ : Type} (f : Field σ) (key : String) : Bool :=
  f.name == key || f.others.contains key

/-- What follows a record that is left at a repeated key. -/
def leaveRecord (cs : List Char) : List Char :=
  match skipBlank cs with
  | '\x7d' :: r => r
  | r => r

/-- Reads fields by name behind the opening bracket. Each step passes a character, so the length of
the text bounds their number. -/
def namedFields {σ : Type} (fields : List (Field σ)) :
    Nat → Bool → List String → σ → List Char → Except (Fault (List Char)) (σ × List Char)
  | 0, _, _, _, _ => .error .malformed
  | steps + 1, first, seen, s, cs => do
    match ← nextKey first cs with
    | .closed rest => .ok (s, rest)
    | .entry r =>
      let (key, r) ← stringBody r
      match fields.find? (·.isCalled key) with
      | none => namedFields fields steps false seen s (← skipValue (← expectColon r))
      | some f =>
        if seen.contains f.name then
          .error (.mismatch ("duplicate field `" ++ f.name ++ "`") (leaveRecord r))
        else
          let (s, r) ← f.readInto s (← expectColon r)
          namedFields fields steps false (f.name :: seen) s r

/-- Reads the first fields in order behind the opening bracket. -/
def orderedFields {σ : Type} :
    List (Field σ) → Bool → σ → List Char → Except (Fault (List Char)) (σ × List Char)
  | [], _, s, cs => (expectListEnd cs).map fun rest => (s, rest)
  | f :: fs, first, s, cs => do
    match ← nextElement first cs with
    | .closed rest => .ok (s, rest)
    | .entry r =>
      let (s, r) ← f.readInto s r
      orderedFields fs false s r

/-- Reads a record over its default. -/
def record {σ : Type} (expected : String) (fields : List (Field σ)) (default : σ) : Reader σ :=
  fun cs =>
    match skipBlank cs with
    | '\x7b' :: r => namedFields fields (r.length + 1) true [] default r
    | '[' :: r => orderedFields fields true default r
    | cs => do
      let (item, rest) ← Item.read cs
      item.refuse expected rest

/-- Reads the entries of a map behind its opening bracket. -/
def mapEntries {α : Type} (value : Reader α) :
    Nat → Bool → List Char → Except (Fault (List Char)) (List (String × α) × List Char)
  | 0, _, _ => .error .malformed
  | steps + 1, first, cs => do
    match ← nextKey first cs with
    | .closed rest => .ok ([], rest)
    | .entry r =>
      let (key, r) ← stringBody r
      let (a, r) ← value (← expectColon r)
      let (entries, rest) ← mapEntries value steps false r
      .ok ((key, a) :: entries, rest)

/-- Reads the entries of a map in their order. -/
def map {α : Type} (expected : String) (value : Reader α) : Reader (List (String × α)) := fun cs =>
  match skipBlank cs with
  | '\x7b' :: r => mapEntries value (r.length + 1) true r
  | cs => do
    let (item, rest) ← Item.read cs
    item.refuse expected rest

example : map "a map" string "\x7b\"b\":\"1\", \"a\" : \"2\"\x7d,".toList =
    .ok ([("b", "1"), ("a", "2")], [',']) := by cbv

example : record "a pair" [.of "left" ["l"] string fun _ a => a] "" "[\"a\"]".toList =
    .ok ("a", []) := by cbv

example : record "a pair" [.of "left" ["l"] string fun _ a => a] "" "\x7b\"l\":\"a\"\x7d".toList =
    .ok ("a", []) := by cbv

end UtilityCss.Json
