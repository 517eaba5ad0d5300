import UtilityCss.Utility.Token

/-!
# Rules that classify tokens

A utility with several purposes has a list of rules. The token's key names its rule; without such a
rule the first one that accepts the token is taken. Rules that accept nothing are found by key only.
-/
namespace UtilityCss.Utility

structure Rule (α : Type) where
  key : String
  accepts : Token → Bool
  outcome : α

/-- Accepts no token. -/
def keyedOnly (_ : Token) : Bool := false

/-- The rule that the token's key names. -/
def keyed? {α : Type} (rules : List (Rule α)) (t : Token) : Option (Rule α) :=
  if t.key.isEmpty then none else rules.find? (·.key == t.key)

def firstMatch {α : Type} (rules : List (Rule α)) (t : Token) : Option α :=
  ((keyed? rules t).or (rules.find? (·.accepts t))).map Rule.outcome

end UtilityCss.Utility
