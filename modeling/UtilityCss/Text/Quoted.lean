import UtilityCss.Text.Hidden

/-!
# Quoted text

A text is quoted when a message shows what was found in an input. The delimiter, the backslash and
four controls have an escape of their own, other hidden characters are written by their code, and all
else stands for itself. Reading quoted text back is not needed and not defined.
-/
namespace UtilityCss.Text

/-- The letter behind the backslash for characters with an escape of their own. -/
def escapeLetter? (c : Char) : Option Char :=
  match c with
  | '\x00' => some '0'
  | '\t' => some 't'
  | '\n' => some 'n'
  | '\r' => some 'r'
  | '"' => some '"'
  | '\\' => some '\\'
  | _ => none

/-- How a character is written between quotes. -/
def escape (c : Char) : List Char :=
  match escapeLetter? c with
  | some l => ['\\', l]
  | none =>
    if isHidden c then '\\' :: 'u' :: '\x7b' :: (Nat.toDigits 16 c.toNat ++ ['\x7d']) else [c]

def quoted (text : String) : String :=
  String.ofList ('"' :: (text.toList.flatMap escape ++ ['"']))

example : quoted "a\"b\n\u200B" = "\"a\\\"b\\n\\u\x7b200b\x7d\"" := by decide +kernel

end UtilityCss.Text
