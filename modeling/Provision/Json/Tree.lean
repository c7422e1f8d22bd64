import Provision.Json.Basic

/-!
# Reading JSON text

`Tree.ofText?` reads a text into a tree that keeps what is written: the members
of an object with their repetitions and in their order, numbers as literals, and
strings that hold a lone half of a surrogate pair as unreadable.  A tree is a
document only when every string is readable, every number fits a double and the
nesting is at most `maxDepth` deep; `Tree.toJson?` decides that and builds the
document, where the last member of each name counts.

Two stages are needed because a record may be read out of a text whose other
members are well formed but are no documents: those are skipped.
-/

namespace Provision.Json

/-- A JSON text as it is written. -/
inductive Tree where
  | null
  | bool (value : Bool)
  | number (literal : Number.Literal)
  | string (text : Option String)
  | array (elements : List Tree)
  | object (members : List (Option String × Tree))
deriving Inhabited

namespace Tree

/-- Skips the four characters that may stand between tokens. -/
def skipSpace : List Char → List Char
  | [] => []
  | char :: rest =>
    if char = ' ' ∨ char = '\t' ∨ char = '\n' ∨ char = '\r' then skipSpace rest else char :: rest

/-- The decimal digits a text begins with, and the rest. -/
def readDigits : List Char → List Nat × List Char
  | [] => ([], [])
  | char :: rest =>
    match Text.digitValue? char with
    | some digit =>
      let (digits, rest) := readDigits rest
      (digit :: digits, rest)
    | none => ([], char :: rest)

/-- The whole part of a number: one zero, or digits that do not begin with one. -/
def readWhole (text : List Char) : Option (List Nat × List Char) :=
  match readDigits text with
  | ([], _) => none
  | (0 :: _ :: _, _) => none
  | (digits, rest) => some (digits, rest)

/-- The part of a number after its point, when there is a point. -/
def readFraction : List Char → Option (Option (List Nat) × List Char)
  | '.' :: text =>
    match readDigits text with
    | ([], _) => none
    | (digits, rest) => some (some digits, rest)
  | text => some (none, text)

/-- The digits of an exponent behind its sign. -/
def readExponentDigits (below : Bool) (text : List Char) :
    Option (Option (Bool × List Nat) × List Char) :=
  match readDigits text with
  | ([], _) => none
  | (digits, rest) => some (some (below, digits), rest)

/-- The exponent of a number, when there is one. -/
def readExponent : List Char → Option (Option (Bool × List Nat) × List Char)
  | mark :: text =>
    if mark = 'e' ∨ mark = 'E' then
      match text with
      | '+' :: digits => readExponentDigits false digits
      | '-' :: digits => readExponentDigits true digits
      | digits => readExponentDigits false digits
    else some (none, mark :: text)
  | [] => some (none, [])

/-- A number behind its sign. -/
def readNumber (negative : Bool) (text : List Char) : Option (Tree × List Char) := do
  let (whole, text) ← readWhole text
  let (fraction, text) ← readFraction text
  let (exponent, text) ← readExponent text
  return (.number ⟨negative, whole, fraction, exponent⟩, text)

/-- The character that a one-letter escape stands for. -/
def escaped? : Char → Option Char
  | '"' => some '"'
  | '\\' => some '\\'
  | '/' => some '/'
  | 'b' => some '\x08'
  | 'f' => some '\x0c'
  | 'n' => some '\n'
  | 'r' => some '\r'
  | 't' => some '\t'
  | _ => none

/-- Four hexadecimal digits as a number. -/
def readHex : List Char → Option (Nat × List Char)
  | first :: second :: third :: fourth :: rest => do
    let first ← Text.hexValue? first
    let second ← Text.hexValue? second
    let third ← Text.hexValue? third
    let fourth ← Text.hexValue? fourth
    return (((first * 16 + second) * 16 + third) * 16 + fourth, rest)
  | _ => none

/-- The code points of a string up to its closing quote; an escape may stand for half of a
surrogate pair. -/
def readPoints : Nat → List Char → Option (List Nat × List Char)
  | 0, _ => none
  | _ + 1, [] => none
  | _ + 1, '"' :: rest => some ([], rest)
  | fuel + 1, '\\' :: 'u' :: rest => do
    let (point, rest) ← readHex rest
    let (points, rest) ← readPoints fuel rest
    return (point :: points, rest)
  | fuel + 1, '\\' :: letter :: rest => do
    let char ← escaped? letter
    let (points, rest) ← readPoints fuel rest
    return (char.toNat :: points, rest)
  | fuel + 1, char :: rest =>
    if char.toNat < 0x20 ∨ char = '\\' then none
    else do
      let (points, rest) ← readPoints fuel rest
      return (char.toNat :: points, rest)

/-- Whether a code point is the first half of a surrogate pair. -/
def isHighHalf (point : Nat) : Bool := 0xD800 ≤ point && point < 0xDC00

/-- Whether a code point is the second half of a surrogate pair. -/
def isLowHalf (point : Nat) : Bool := 0xDC00 ≤ point && point < 0xE000

/-- The characters of code points whose halves of surrogate pairs are joined; none when a half
stands alone. -/
def joinHalves : List Nat → Option (List Char)
  | [] => some []
  | [point] => if isHighHalf point || isLowHalf point then none else some [Char.ofNat point]
  | high :: low :: rest =>
    if isHighHalf high then
      if isLowHalf low then
        (joinHalves rest).map (Char.ofNat (0x10000 + (high - 0xD800) * 0x400 + (low - 0xDC00)) :: ·)
      else none
    else if isLowHalf high then none
    else (joinHalves (low :: rest)).map (Char.ofNat high :: ·)

/-- A string behind its opening quote. -/
def readString (text : List Char) : Option (Option String × List Char) := do
  let (points, rest) ← readPoints (text.length + 1) text
  return ((joinHalves points).map String.ofList, rest)

mutual

/-- A value at the beginning of a text, and the rest of the text. -/
def readValue : Nat → List Char → Option (Tree × List Char)
  | 0, _ => none
  | fuel + 1, text =>
    match skipSpace text with
    | 'n' :: 'u' :: 'l' :: 'l' :: rest => some (.null, rest)
    | 't' :: 'r' :: 'u' :: 'e' :: rest => some (.bool true, rest)
    | 'f' :: 'a' :: 'l' :: 's' :: 'e' :: rest => some (.bool false, rest)
    | '"' :: rest => do
      let (text, rest) ← readString rest
      return (.string text, rest)
    | '[' :: rest =>
      match skipSpace rest with
      | ']' :: rest => some (.array [], rest)
      | rest => do
        let (elements, rest) ← readElements fuel rest
        return (.array elements, rest)
    | '{' :: rest =>
      match skipSpace rest with
      | '}' :: rest => some (.object [], rest)
      | rest => do
        let (members, rest) ← readMembers fuel rest
        return (.object members, rest)
    | '-' :: rest => readNumber true rest
    | rest => readNumber false rest

/-- The elements of an array up to its closing bracket, at least one. -/
def readElements : Nat → List Char → Option (List Tree × List Char)
  | 0, _ => none
  | fuel + 1, text => do
    let (element, rest) ← readValue fuel text
    match skipSpace rest with
    | ']' :: rest => return ([element], rest)
    | ',' :: rest =>
      let (elements, rest) ← readElements fuel rest
      return (element :: elements, rest)
    | _ => none

/-- The members of an object up to its closing brace, at least one. -/
def readMembers : Nat → List Char → Option (List (Option String × Tree) × List Char)
  | 0, _ => none
  | fuel + 1, text =>
    match skipSpace text with
    | '"' :: rest => do
      let (name, rest) ← readString rest
      match skipSpace rest with
      | ':' :: rest =>
        let (value, rest) ← readValue fuel rest
        match skipSpace rest with
        | '}' :: rest => return ([(name, value)], rest)
        | ',' :: rest =>
          let (members, rest) ← readMembers fuel rest
          return ((name, value) :: members, rest)
        | _ => none
      | _ => none
    | _ => none

end

/-- Reads a text that holds one value and nothing else but space. -/
def ofText? (text : String) : Option Tree :=
  let chars := text.toList
  match readValue (2 * chars.length + 2) chars with
  | some (tree, rest) => if (skipSpace rest).isEmpty then some tree else none
  | none => none

/-- How deep arrays and objects may be nested in a document. -/
def maxDepth : Nat := 127

mutual

/-- The document that a tree stands for, if it is one whose nesting is at most `depth` deep. -/
def toDocument? (depth : Nat) : Tree → Option Json
  | .null => some .null
  | .bool value => some (.bool value)
  | .number literal => literal.toNumber?.map .number
  | .string text => text.map .string
  | .array elements =>
    if depth = 0 then none else (toElements? (depth - 1) elements).map .array
  | .object members =>
    if depth = 0 then none else (toMembers? (depth - 1) members).map Json.ofMembers

/-- The documents that the elements of an array stand for. -/
def toElements? (depth : Nat) : List Tree → Option (List Json)
  | [] => some []
  | element :: rest => do
    let element ← toDocument? depth element
    let rest ← toElements? depth rest
    return element :: rest

/-- The named documents that the members of an object stand for. -/
def toMembers? (depth : Nat) : List (Option String × Tree) → Option (List (String × Json))
  | [] => some []
  | (name, value) :: rest => do
    let name ← name
    let value ← toDocument? depth value
    let rest ← toMembers? depth rest
    return (name, value) :: rest

end

/-- The document that a tree stands for, if it is one. -/
def toJson? (tree : Tree) : Option Json := toDocument? maxDepth tree

end Tree

/-- Reads a document out of a text that holds nothing else. -/
def ofText? (text : String) : Option Json := (Tree.ofText? text).bind Tree.toJson?

end Provision.Json
