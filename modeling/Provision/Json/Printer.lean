import Provision.Json.Basic

/-!
# Writing JSON text

`Json.compact` writes a document on one line without any space, and
`Json.pretty` one element or member per line, indented by two spaces per level,
with the brackets or braces of an empty array or object side by side.  In
strings only the quote, the backslash and the control characters below U+0020
are escaped.
-/

namespace Provision.Json

/-- A hexadecimal digit in lower case. -/
def hexDigit (value : Nat) : Char :=
  if value < 10 then Char.ofNat ('0'.toNat + value) else Char.ofNat ('a'.toNat + (value - 10))

/-- A character as it stands between the quotes of a string. -/
def escapeChar (char : Char) : List Char :=
  match char with
  | '"' => ['\\', '"']
  | '\\' => ['\\', '\\']
  | '\x08' => ['\\', 'b']
  | '\x0c' => ['\\', 'f']
  | '\n' => ['\\', 'n']
  | '\r' => ['\\', 'r']
  | '\t' => ['\\', 't']
  | char =>
    if char.toNat < 0x20 then
      ['\\', 'u', '0', '0', hexDigit (char.toNat / 16), hexDigit (char.toNat % 16)]
    else [char]

/-- A string with its quotes. -/
def quote (text : String) : String :=
  String.ofList ('"' :: text.toList.flatMap escapeChar ++ ['"'])

mutual

/-- A document on one line without space. -/
def compact : Json → String
  | .null => "null"
  | .bool value => if value then "true" else "false"
  | .number value => value.text
  | .string text => quote text
  | .array elements => "[" ++ ",".intercalate (compactElements elements) ++ "]"
  | .object members => "\x7b" ++ ",".intercalate (compactMembers members) ++ "\x7d"

/-- The elements of an array, each on one line. -/
def compactElements : List Json → List String
  | [] => []
  | element :: rest => compact element :: compactElements rest

/-- The members of an object, each on one line. -/
def compactMembers : List (String × Json) → List String
  | [] => []
  | (name, value) :: rest => (quote name ++ ":" ++ compact value) :: compactMembers rest

end

/-- The beginning of a line at a level of nesting. -/
def newLine (level : Nat) : String :=
  "\n" ++ String.ofList (List.replicate (2 * level) ' ')

mutual

/-- A document over several lines, indented as the contents of the given level are. -/
def prettyAt (level : Nat) : Json → String
  | .array [] => "[]"
  | .array (element :: rest) =>
    "[" ++ ",".intercalate (prettyElements (level + 1) (element :: rest)) ++ newLine level ++ "]"
  | .object [] => "\x7b\x7d"
  | .object (member :: rest) =>
    "\x7b" ++ ",".intercalate (prettyMembers (level + 1) (member :: rest)) ++ newLine level ++ "\x7d"
  | .null => "null"
  | .bool value => if value then "true" else "false"
  | .number value => value.text
  | .string text => quote text

/-- The elements of an array, each from a new line on. -/
def prettyElements (level : Nat) : List Json → List String
  | [] => []
  | element :: rest => (newLine level ++ prettyAt level element) :: prettyElements level rest

/-- The members of an object, each from a new line on. -/
def prettyMembers (level : Nat) : List (String × Json) → List String
  | [] => []
  | (name, value) :: rest =>
    (newLine level ++ quote name ++ ": " ++ prettyAt level value) :: prettyMembers level rest

end

/-- A document over several lines, indented by two spaces per level. -/
def pretty (document : Json) : String := prettyAt 0 document

end Provision.Json
