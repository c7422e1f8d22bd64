import Provision.Decimal.Shortest
import Provision.Text.Basic

/-!
# Numbers of a JSON document

A number written without fraction and exponent that fits a signed or an
unsigned word of 64 bits is kept as an integer; every other number is a double,
held by its bits.  `1` and `1.0` are therefore different numbers.

`Number.Literal` is a number as it stands in a text, and `Literal.toNumber?`
reads it: the digits are gathered in an unsigned word until the next one would
overflow it, and the word is then scaled by a power of ten in double
arithmetic.
-/

namespace Provision.Json

/-- An integer of at most 64 bits, or a double given by its bits. -/
inductive Number where
  | int (value : Int)
  | double (bits : UInt64)
deriving DecidableEq, Repr

namespace Number

/-- Equality of the values that two numbers of the same form stand for, so that the two zeros among
the doubles are equal. -/
def sameValue : Number → Number → Bool
  | int left, int right => left = right
  | double left, double right => Float.ofBits left == Float.ofBits right
  | _, _ => false

/-- A number as it is written: sign, digits before and after the point, and exponent. -/
structure Literal where
  negative : Bool
  whole : List Nat
  fraction : Option (List Nat)
  exponent : Option (Bool × List Nat)
deriving DecidableEq, Repr

/-- The largest unsigned word. -/
def maxWord : Nat := UInt64.size - 1

/-- Gathers digits behind a word until the next one would overflow it; answers the word and the
digits left over. -/
def gather (word : Nat) : List Nat → Nat × List Nat
  | [] => (word, [])
  | digit :: digits =>
    if maxWord < word * 10 + digit then (word, digit :: digits)
    else gather (word * 10 + digit) digits

/-- `10 ^ exponent` as a double. -/
def powerOfTen (exponent : Nat) : Float :=
  Float.ofScientific 1 false exponent

/-- Divides by `10 ^ exponent` in steps of at most `10 ^ 308`. -/
def scaleDown : Nat → Float → Nat → Float
  | 0, value, _ => value
  | fuel + 1, value, exponent =>
    if exponent ≤ 308 then value / powerOfTen exponent
    else if value == 0.0 then value
    else scaleDown fuel (value / powerOfTen 308) (exponent - 308)

/-- `word · 10 ^ exponent` as a double, unless it is too large for one. -/
def scale? (word : Nat) (exponent : Int) : Option Float :=
  let value := Float.ofNat word
  if 0 ≤ exponent then
    if exponent ≤ 308 then
      let scaled := value * powerOfTen exponent.toNat
      if scaled.isInf then none else some scaled
    else if word = 0 then some value else none
  else some (scaleDown 10 value (-exponent).toNat)

/-- The largest exponent that a number may be written with. -/
def maxExponent : Nat := 0x7FFFFFFF

/-- The exponent's value, unless it passes the largest one allowed. -/
def exponentValue? (digits : List Nat) : Option Nat :=
  let value := digits.foldl (fun value digit => value * 10 + digit) 0
  if value ≤ maxExponent then some value else none

namespace Literal

/-- The double with the literal's sign. -/
def signed (literal : Literal) (value : Float) : Number :=
  double (if literal.negative then -value else value).toBits

/-- The double of a literal whose gathered digits are `word · 10 ^ places`. -/
def scaled? (literal : Literal) (word : Nat) (places : Int) : Option Number :=
  match literal.exponent with
  | none => (scale? word places).map literal.signed
  | some (below, digits) =>
    match exponentValue? digits with
    | some value =>
      (scale? word (if below then places - value else places + value)).map literal.signed
    | none => if word ≠ 0 ∧ ¬ below then none else some (literal.signed 0.0)

/-- The number that a literal stands for; none when it is too large for a double. -/
def toNumber? (literal : Literal) : Option Number :=
  let (word, left) := gather 0 literal.whole
  match literal.fraction, literal.exponent with
  | none, none =>
    if left ≠ [] then literal.scaled? word left.length
    else if ¬ literal.negative then some (int word)
    else if word = 0 ∨ 0x8000000000000000 < word then some (literal.signed (Float.ofNat word))
    else some (int (-(word : Int)))
  | none, some _ => literal.scaled? word left.length
  | some digits, _ =>
    let (whole, dropped) := gather word digits
    literal.scaled? whole (left.length - (digits.length - dropped.length : Nat))

end Literal

/-- Doubles are written with a point when the exponent of the leading digit lies between -5 and 15,
and with an exponent of at least two digits and a sign otherwise; at least one digit follows the
point. -/
def doubleText (bits : UInt64) : String :=
  let sign := if bits.toNat < 0x8000000000000000 then "" else "-"
  let value := Decimal.Binary.ofBits bits
  if value.significand = 0 then sign ++ "0.0"
  else
    let number := Decimal.shortest value
    let digits := Nat.toDigits 10 number.digits
    let leading := number.exponent + digits.length - 1
    if -5 ≤ leading ∧ leading ≤ 15 then
      if 0 ≤ number.exponent then
        sign ++ String.ofList (digits ++ List.replicate number.exponent.toNat '0') ++ ".0"
      else if 0 ≤ leading then
        let whole := leading.toNat + 1
        sign ++ String.ofList (digits.take whole) ++ "." ++ String.ofList (digits.drop whole)
      else
        sign ++ "0." ++ String.ofList (List.replicate (-leading - 1).toNat '0' ++ digits)
    else
      let exponent := leading.natAbs
      let padding := if exponent < 10 then "0" else ""
      let fraction := if digits.length ≤ 1 then "" else "." ++ String.ofList (digits.drop 1)
      sign ++ String.ofList (digits.take 1) ++ fraction ++ "e" ++ (if leading < 0 then "-" else "+")
        ++ padding ++ Text.decimal exponent

/-- A number as it stands in compact text. -/
def text : Number → String
  | int value => if value < 0 then "-" ++ Text.decimal value.natAbs else Text.decimal value.natAbs
  | double bits => doubleText bits

end Number

end Provision.Json
