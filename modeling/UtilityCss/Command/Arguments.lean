/-!
# Arguments of the command

Arguments are a sequence of items: a positional text, the flag for dark palettes, or a setting with its
value. A value may be any text, also one that looks like a flag. Of a setting that is given more than
once the last value counts. Which settings a command uses is not decided here.
-/
namespace UtilityCss.Command

/-- What an item can set. -/
inductive Setting where
  | config
  | mode
  | namePrefix
  | key
  | unit
  | second
  | secondUnit
  deriving DecidableEq, Repr

def Setting.all : List Setting := [.config, .mode, .namePrefix, .key, .unit, .second, .secondUnit]

def Setting.flag : Setting → String
  | .config => "--config"
  | .mode => "--mode"
  | .namePrefix => "--prefix"
  | .key => "--key"
  | .unit => "--unit"
  | .second => "--second"
  | .secondUnit => "--second-unit"

def Setting.ofFlag? (flag : String) : Option Setting := all.find? (·.flag == flag)

def darkFlag : String := "--dark"

inductive Item where
  | positional (text : String)
  | dark
  | setting (setting : Setting) (value : String)
  deriving DecidableEq, Repr

/-- Why arguments are no sequence of items. -/
inductive ArgumentError where
  | needsValue (flag : String)
  | unknownFlag (flag : String)
  deriving DecidableEq, Repr

def ArgumentError.message : ArgumentError → String
  | .needsValue flag => flag ++ " needs a value"
  | .unknownFlag flag => "unknown flag " ++ flag

/-- A text that starts with two hyphens is no positional one. -/
def isFlag (text : String) : Bool := "--".toList.isPrefixOf text.toList

/-- Reads arguments as items. The last argument cannot be a setting, known or not. -/
def readItems : List String → Except ArgumentError (List Item)
  | [] => .ok []
  | a :: rest =>
    if a = darkFlag then (readItems rest).map (.dark :: ·)
    else if !isFlag a then (readItems rest).map (.positional a :: ·)
    else
      match rest with
      | [] => .error (.needsValue a)
      | value :: rest =>
        match Setting.ofFlag? a with
        | some s => (readItems rest).map (.setting s value :: ·)
        | none => .error (.unknownFlag a)

/-- The arguments that an item is given by. -/
def Item.words : Item → List String
  | .positional text => [text]
  | .dark => [darkFlag]
  | .setting s value => [s.flag, value]

def Item.positional? : Item → Option String
  | .positional text => some text
  | _ => none

/-- The value that an item gives to a setting. -/
def Item.valueOf? (s : Setting) : Item → Option String
  | .setting t value => if t = s then some value else none
  | _ => none

/-- What a sequence of items says. -/
structure Arguments where
  positionals : List String
  dark : Bool
  setting? : Setting → Option String

def Arguments.ofItems (items : List Item) : Arguments where
  positionals := items.filterMap Item.positional?
  dark := items.contains .dark
  setting? s := (items.filterMap (Item.valueOf? s)).getLast?

/-- Reads arguments. -/
def Arguments.read (words : List String) : Except ArgumentError Arguments :=
  (readItems words).map ofItems

example : readItems ["p", "--key", "--dark", "--dark"] =
    .ok [.positional "p", .setting .key "--dark", .dark] := by rfl

example : readItems ["--x"] = .error (.needsValue "--x") := by rfl

example : readItems ["--x", "--unit"] = .error (.unknownFlag "--x") := by rfl

end UtilityCss.Command
