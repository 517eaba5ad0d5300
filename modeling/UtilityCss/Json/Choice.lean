import UtilityCss.Json.Record

/-!
# Choices

A choice is one of at least three named values. It is given by its name, or by a record with the name
as its only key and no value.
-/
namespace UtilityCss.Json

/-- Finds a value by its name. -/
def pick {α : Type} (options : List (String × α)) (name : String) (rest : List Char) :
    Except (Fault (List Char)) α :=
  match options.lookup name with
  | some a => .ok a
  | none =>
    .error (.mismatch ("unknown variant `" ++ name ++ "`, expected one of " ++
      ", ".intercalate (options.map fun o => "`" ++ o.1 ++ "`")) rest)

/-- Reads one of the named values. -/
def choice {α : Type} (options : List (String × α)) : Reader α := fun cs =>
  match skipBlank cs with
  | [] => .error .unfinished
  | '"' :: r => do
    let (name, r) ← stringBody r
    .ok (← pick options name r, r)
  | '\x7b' :: r => do
    match ← nextKey true r with
    | .closed _ => .error .malformed
    | .entry r =>
      let (name, r) ← stringBody r
      let a ← pick options name r
      let (_, r) ← scalar "unit" Item.null? (← expectColon r)
      match skipBlank r with
      | [] => .error .unfinished
      | '\x7d' :: rest => .ok (a, rest)
      | _ => .error .malformed
  | _ => .error .malformed

example : choice [("a", 1), ("b", 2), ("c", 3)] "\x7b\"b\" : null\x7d,".toList = .ok (2, [',']) := by
  cbv

example : ["\x7bnull:null\x7d", "\x7bnul", "\x7b-", "\x7b\x7b", "\x7b\x7d"].map (fun t =>
    choice [("a", 1), ("b", 2), ("c", 3)] t.toList) = List.replicate 5 (.error .malformed) := by cbv

end UtilityCss.Json
