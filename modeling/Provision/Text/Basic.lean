/-!
# Searching and cutting text

Text is a `String`; every operation that looks inside one is defined on its
list of characters, where recursion follows the data.  This module holds the
tests (`startsWith`, `endsWith`, `contains`) and the cuts (`splitOn`,
`splitFirst`, `splitLast`, `dropLeading`, `dropTrailing`) that paths, queries
and names are built from.
-/

namespace Provision.Text

/-- The rest of `text` after `start`, when `text` begins with `start`. -/
def dropStart? : List Char → List Char → Option (List Char)
  | [], text => some text
  | _ :: _, [] => none
  | wanted :: start, found :: text => if wanted = found then dropStart? start text else none

/-- Whether `start` is the beginning of `text`. -/
def startsWith (start text : String) : Bool :=
  (dropStart? start.toList text.toList).isSome

/-- Whether `ending` is the end of `text`. -/
def endsWith (ending text : String) : Bool :=
  (dropStart? ending.toList.reverse text.toList.reverse).isSome

/-- `text` without `start`, when it begins with it. -/
def stripStart? (start text : String) : Option String :=
  (dropStart? start.toList text.toList).map String.ofList

/-- `text` without `ending`, when it ends with it. -/
def stripEnd? (ending text : String) : Option String :=
  (dropStart? ending.toList.reverse text.toList.reverse).map fun kept => String.ofList kept.reverse

/-- Whether the characters of `needle` occur one after the other in `text`. -/
def occursIn (needle : List Char) : List Char → Bool
  | [] => needle.isEmpty
  | found :: text => (dropStart? needle (found :: text)).isSome || occursIn needle text

/-- Whether `needle` occurs in `text`. -/
def contains (needle text : String) : Bool :=
  occursIn needle.toList text.toList

/-- What stands before and after the first occurrence of `needle`. -/
def cut? (needle : List Char) : List Char → Option (List Char × List Char)
  | [] => if needle.isEmpty then some ([], []) else none
  | found :: text =>
    match dropStart? needle (found :: text) with
    | some rest => some ([], rest)
    | none => (cut? needle text).map fun (before, after) => (found :: before, after)

/-- What stands before and after the first occurrence of `needle`. -/
def splitFirst? (needle text : String) : Option (String × String) :=
  (cut? needle.toList text.toList).map fun (before, after) =>
    (String.ofList before, String.ofList after)

/-- What stands before and after the last occurrence of `needle`. -/
def splitLast? (needle text : String) : Option (String × String) :=
  (cut? needle.toList.reverse text.toList.reverse).map fun (after, before) =>
    (String.ofList before.reverse, String.ofList after.reverse)

/-- The pieces between the occurrences of `separator`, always at least one. -/
def pieces (separator : Char) : List Char → List (List Char)
  | [] => [[]]
  | found :: text =>
    if found = separator then [] :: pieces separator text
    else
      match pieces separator text with
      | [] => [[found]]
      | piece :: rest => (found :: piece) :: rest

/-- The pieces of `text` between the occurrences of `separator`. -/
def splitOn (separator : Char) (text : String) : List String :=
  (pieces separator text.toList).map String.ofList

/-- The last of the pieces of `text` between the occurrences of `separator`. -/
def lastPiece (separator : Char) (text : String) : String :=
  String.ofList (text.toList.reverse.takeWhile (· ≠ separator)).reverse

/-- `text` without the run of `unwanted` it begins with. -/
def dropLeading (unwanted : Char) (text : String) : String :=
  String.ofList (text.toList.dropWhile (· = unwanted))

/-- `text` without the run of `unwanted` it ends with. -/
def dropTrailing (unwanted : Char) (text : String) : String :=
  String.ofList (text.toList.reverse.dropWhile (· = unwanted)).reverse

/-- The texts one after the other with `separator` between neighbours. -/
def join (separator : String) : List String → String
  | [] => ""
  | [text] => text
  | text :: next :: rest => text ++ separator ++ join separator (next :: rest)

/-- A number in decimal digits. -/
def decimal (value : Nat) : String := String.ofList (Nat.toDigits 10 value)

/-- The value of a decimal digit. -/
def digitValue? (digit : Char) : Option Nat :=
  if '0' ≤ digit ∧ digit ≤ '9' then some (digit.toNat - '0'.toNat) else none

/-- The value of a hexadecimal digit of either case. -/
def hexValue? (digit : Char) : Option Nat :=
  if '0' ≤ digit ∧ digit ≤ '9' then some (digit.toNat - '0'.toNat)
  else if 'a' ≤ digit ∧ digit ≤ 'f' then some (digit.toNat - 'a'.toNat + 10)
  else if 'A' ≤ digit ∧ digit ≤ 'F' then some (digit.toNat - 'A'.toNat + 10)
  else none

end Provision.Text
