import Provision.Text.Basic
import Provision.Text.Case
import Provision.Url.Domain.Joining
import Provision.Url.Domain.Mapping
import Provision.Url.Domain.Refused
import Provision.Url.Punycode

/-!
# Labels of host names

The characters of a host name are mapped to the ones that stand for them.  A
label that still holds characters outside ASCII is written in its form in ASCII,
which is marked by `xn--`; a label with that mark must be the form of a label that
the mapping leaves as it is.
-/

namespace Provision.Url.Domain

/-- What a run of characters makes of one of them. -/
def inRun? (point : Nat) (run : Nat × List Nat) : Option Nat :=
  if run.1 ≤ point then run.2[point - run.1]? else none

/-- The characters that stand for a character in a host name, if it may occur there. -/
def image? (char : Char) : Option (List Char) :=
  let point := char.toNat
  if point < 0x80 then some [Text.lowerAscii char]
  else if Text.inRanges refusedRanges point then none
  else if Text.inRanges ignoredRanges point then some []
  else
    match mappedRuns.findSome? (inRun? point) with
    | some image => some [Char.ofNat image]
    | none =>
      match mappedSequences.find? fun (first, _) => first = point with
      | some (_, images) => some (images.map Char.ofNat)
      | none => some (Text.lowerChar char)

/-- Whether every character is one of ASCII. -/
def isAscii (text : List Char) : Bool := text.all fun char => char.toNat < 0x80

/-- Whether a character is a mark on the one before it. -/
def isMark (char : Char) : Bool :=
  isNonspacing char || Text.inRanges spacingRanges char.toNat

/-- The mark of labels in their form in ASCII. -/
def asciiMark : List Char := "xn--".toList

/-- Whether a label outside ASCII is sound: it does not begin with a mark of any kind, and its
joiners are where they may be. -/
def isSound (label : List Char) : Bool :=
  !(label.head?.any isMark) && (Text.dropStart? asciiMark label).isNone && joinersAllowed [] label

/-- A label of a host name, as it is read and as it is written in ASCII. -/
structure Label where
  text : List Char
  ascii : List Char
deriving DecidableEq, Repr

/-- The label of some mapped characters, if they make one. -/
def Label.of? (mapped : List Char) : Option Label :=
  match Text.dropStart? asciiMark mapped with
  | some form =>
    (Punycode.decode? form).bind fun text =>
      if !isAscii text && isSound text && text.all fun char => image? char = some [char] then
        some ⟨text, mapped⟩
      else none
  | none =>
    if isAscii mapped then some ⟨mapped, mapped⟩
    else if isSound mapped then some ⟨mapped, asciiMark ++ Punycode.encode mapped⟩
    else none

end Provision.Url.Domain
