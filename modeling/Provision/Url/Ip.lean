import Provision.Text.Basic
import Provision.Url.Error

/-!
# Addresses in the place of a host name

A host name whose last label is a number is an address of version 4, of which
each label may be octal, decimal or hexadecimal and the last one fills the bytes
that are left.  A host in brackets is an address of version 6.
-/

namespace Provision.Url

/-- The value of digits in a base, unless one of the characters is no digit of it. -/
def digitsValue? (base : Nat) (digits : List Char) : Option Nat :=
  digits.foldlM (fun value digit => do
    let next ← Text.hexValue? digit
    if next < base then some (value * base + next) else none) 0

/-- The value of a label of an address; the number may be too large for one. -/
def ipv4Number? : List Char → Option Nat
  | [] => none
  | '0' :: 'x' :: digits | '0' :: 'X' :: digits => digitsValue? 16 digits
  | '0' :: digit :: digits => digitsValue? 8 (digit :: digits)
  | digits => digitsValue? 10 digits

/-- The labels of a host name without an empty one at the end. -/
def labels (host : List Char) : List (List Char) :=
  let pieces := Text.pieces '.' host
  if pieces.getLast? = some [] then pieces.dropLast else pieces

/-- Whether the last label of a host name is a number. -/
def endsInNumber (host : List Char) : Bool :=
  match (labels host).getLast? with
  | none => false
  | some [] => false
  | some label => label.all (fun digit => (Text.digitValue? digit).isSome) ||
      (ipv4Number? label).isSome

/-- The address that the values of the labels stand for. -/
def ipv4OfNumbers? (numbers : List Nat) : Option Nat :=
  match numbers.reverse with
  | [] => none
  | last :: others =>
    let leading := others.reverse
    if last < Nat.pow 256 (4 - leading.length) ∧ leading.all (· ≤ 255) ∧ leading.length ≤ 3 then
      some (leading.zipIdx.foldl (fun value (number, index) =>
        value + number * Nat.pow 256 (3 - index)) last)
    else none

/-- Reads an address of version 4. -/
def ipv4? (host : List Char) : Except Error Nat :=
  match ((labels host).mapM ipv4Number?).bind ipv4OfNumbers? with
  | some address => .ok address
  | none => .error .invalidIpv4

/-- The text of an address of version 4. -/
def ipv4Text (address : Nat) : String :=
  Text.join "." <| [0x1000000, 0x10000, 0x100, 1].map fun unit =>
    Text.decimal (address / unit % 256)

/-- The pieces of an address of version 6 before and after the place where zeros are left out. -/
structure Ipv6Pieces where
  before : List Nat
  after : Option (List Nat)

namespace Ipv6Pieces

/-- The number of pieces read, where the zeros left out count for one. -/
def size (pieces : Ipv6Pieces) : Nat :=
  pieces.before.length + (pieces.after.map fun after => after.length + 1).getD 0

/-- Appends a piece. -/
def push (pieces : Ipv6Pieces) (piece : Nat) : Ipv6Pieces :=
  match pieces.after with
  | none => { pieces with before := pieces.before ++ [piece] }
  | some after => { pieces with after := some (after ++ [piece]) }

/-- The eight pieces of the address, with zeros where they were left out. -/
def all? (pieces : Ipv6Pieces) : Option (List Nat) :=
  match pieces.after with
  | none => if pieces.before.length = 8 then some pieces.before else none
  | some after =>
    some (pieces.before ++ List.replicate (9 - pieces.size) 0 ++ after)

end Ipv6Pieces

/-- The hexadecimal digits a text begins with, at most `limit`, as a value with their number. -/
def hexRun : Nat → List Char → Nat × Nat × List Char
  | 0, text => (0, 0, text)
  | limit + 1, text =>
    match text with
    | [] => (0, 0, [])
    | char :: rest =>
      match Text.hexValue? char with
      | none => (0, 0, char :: rest)
      | some digit =>
        let (value, count, left) := hexRun limit rest
        (digit * Nat.pow 16 count + value, count + 1, left)

/-- A decimal byte without leading zeros, and the rest. -/
def decimalByte? (text : List Char) : Option (Nat × List Char) :=
  let digits := text.takeWhile fun char => (Text.digitValue? char).isSome
  let rest := text.dropWhile fun char => (Text.digitValue? char).isSome
  match digits with
  | [] => none
  | '0' :: _ :: _ => none
  | digits => (digitsValue? 10 digits).bind fun value =>
      if value ≤ 255 then some (value, rest) else none

/-- Four bytes separated by points that end the text. -/
def dottedBytes? (text : List Char) : Option (List Nat) := do
  let bytes ← (Text.pieces '.' text).mapM fun piece => do
    let (value, rest) ← decimalByte? piece
    if rest.isEmpty then some value else none
  if bytes.length = 4 then some bytes else none

/-- Reads the pieces of an address of version 6 one after the other. -/
def ipv6Pieces? : Nat → Ipv6Pieces → List Char → Option Ipv6Pieces
  | 0, _, _ => none
  | _ + 1, pieces, [] => some pieces
  | fuel + 1, pieces, ':' :: text =>
    if pieces.size = 8 ∨ pieces.after.isSome then none
    else ipv6Pieces? fuel { pieces with after := some [] } text
  | fuel + 1, pieces, text =>
    if pieces.size = 8 then none
    else
      let (value, count, rest) := hexRun 4 text
      match rest with
      | [] => if count = 0 then none else some (pieces.push value)
      | ':' :: next :: rest => ipv6Pieces? fuel (pieces.push value) (next :: rest)
      | '.' :: _ =>
        if count = 0 ∨ 6 < pieces.size then none
        else
          (dottedBytes? text).bind fun bytes =>
            match bytes with
            | [first, second, third, fourth] =>
              some ((pieces.push (first * 256 + second)).push (third * 256 + fourth))
            | _ => none
      | _ => none

/-- Reads an address of version 6. -/
def ipv6? (text : List Char) : Except Error (List Nat) :=
  let pieces :=
    match text with
    | ':' :: ':' :: rest => ipv6Pieces? (text.length + 1) ⟨[], some []⟩ rest
    | ':' :: _ => none
    | _ => ipv6Pieces? (text.length + 1) ⟨[], none⟩ text
  match pieces.bind Ipv6Pieces.all? with
  | some address => .ok address
  | none => .error .invalidIpv6

/-- The start and the length of the first of the longest runs of zeros. -/
def longestZeros (pieces : List Nat) : Nat × Nat :=
  let runs := (List.range pieces.length).map fun start =>
    (start, ((pieces.drop start).takeWhile (· = 0)).length)
  runs.foldl (fun best run => if best.2 < run.2 then run else best) (0, 0)

/-- The text of an address of version 6, with its longest run of several zeros left out. -/
def ipv6Text (pieces : List Nat) : String :=
  let texts (pieces : List Nat) : String :=
    Text.join ":" <| pieces.map fun piece => String.ofList (Nat.toDigits 16 piece)
  let (start, length) := longestZeros pieces
  if length ≤ 1 then "[" ++ texts pieces ++ "]"
  else "[" ++ texts (pieces.take start) ++ "::" ++ texts (pieces.drop (start + length)) ++ "]"

end Provision.Url
