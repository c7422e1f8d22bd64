import Provision.Text.Basic
import Provision.Text.PrintTable
import Provision.Text.Ranges

/-!
# Text in quotes for a diagnostic

Values are shown for diagnosis with every string in double quotes, in which the
quote, the backslash, control characters, marks that join with the character
before them, and whatever else cannot be seen are written as escapes.
-/

namespace Provision.Text

/-- The escape of a character by the digits of its code point. -/
def pointEscape (char : Char) : List Char :=
  ['\\', 'u', '\x7b'] ++ Nat.toDigits 16 char.toNat ++ ['\x7d']

/-- A character as it stands between quotes. -/
def quotedChar (char : Char) : List Char :=
  match char with
  | '\x00' => ['\\', '0']
  | '\t' => ['\\', 't']
  | '\n' => ['\\', 'n']
  | '\r' => ['\\', 'r']
  | '"' => ['\\', '"']
  | '\\' => ['\\', '\\']
  | char =>
    if inRanges extendingRanges char.toNat || inRanges unprintableRanges char.toNat then
      pointEscape char
    else [char]

/-- A text in quotes. -/
def quoted (text : String) : String :=
  String.ofList ('"' :: text.toList.flatMap quotedChar ++ ['"'])

/-- A list of texts in quotes and brackets. -/
def quotedList (texts : List String) : String :=
  "[" ++ join ", " (texts.map quoted) ++ "]"

/-- A value that may be missing, by the way in which a value is shown. -/
def quotedOptional {Value : Type} (shown : Value → String) : Option Value → String
  | some value => "Some(" ++ shown value ++ ")"
  | none => "None"

/-- A value of the type `name` with named parts. -/
def quotedRecord (name : String) (parts : List (String × String)) : String :=
  name ++ " \x7b " ++ join ", " (parts.map fun (part, shown) => part ++ ": " ++ shown) ++ " \x7d"

end Provision.Text
