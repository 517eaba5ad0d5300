import UtilityCss.Text.Ascii
import UtilityCss.Text.Blank

/-!
# Declarations

A declaration gives a property a value. Lists of declarations are printed with semicolons between
them and read back; reading trims style sheet white space and skips what has no property or no value.
Property names in capitals-and-small-letters form are turned into hyphenated names. Values that hold
a semicolon cannot be read back.
-/
namespace UtilityCss.Utility

open UtilityCss.Text

structure Declaration where
  property : String
  value : String
  deriving DecidableEq, Repr

def Declaration.text (d : Declaration) : String := d.property ++ ": " ++ d.value

/-- Prints declarations in turn. -/
def renderDeclarations (ds : List Declaration) : String :=
  "; ".intercalate (ds.map Declaration.text)

/-- What stands before and behind the first colon. -/
def splitColon? : List Char → Option (List Char × List Char)
  | [] => none
  | c :: r =>
    if c = ':' then some ([], r) else (splitColon? r).map fun (p, v) => (c :: p, v)

/-- Reads one item between semicolons, if it has a property and a value. -/
def readItem? (item : List Char) : Option Declaration :=
  match splitColon? item with
  | none => none
  | some (p, v) =>
    let property := trim isCssBlank p
    let value := trim isCssBlank v
    if property.isEmpty || value.isEmpty then none
    else some ⟨String.ofList property, String.ofList value⟩

/-- Reads the declarations of a text. -/
def parseDeclarations (text : String) : List Declaration :=
  (text.toList.splitOn ';').filterMap readItem?

/-- Puts a hyphen before each capital and makes it small. -/
def hyphenate : List Char → List Char
  | [] => []
  | c :: r => if isUpper c then '-' :: lowerChar c :: hyphenate r else c :: hyphenate r

/-- The style sheet's name of a property. Names without capitals are names already. -/
def toKebabCase (property : String) : String := String.ofList (hyphenate property.toList)

/-- A name without capitals is not changed. -/
theorem hyphenate_eq_self {cs : List Char} (h : ∀ c ∈ cs, isUpper c = false) : hyphenate cs = cs := by
  induction cs with
  | nil => rfl
  | cons c r ih =>
    rw [hyphenate, h c List.mem_cons_self, ih fun a ha => h a (List.mem_cons_of_mem c ha)]
    rfl

example : parseDeclarations " ; color ; : red; width: ; height: 1px;" = [⟨"height", "1px"⟩] := by
  decide +kernel

example : parseDeclarations "--a: b:c; d:e" = [⟨"--a", "b:c"⟩, ⟨"d", "e"⟩] := by decide +kernel

example : toKebabCase "borderTopLeftRadius" = "border-top-left-radius" := by decide +kernel

end UtilityCss.Utility
