import Provision.Text.CaseTable
import Provision.Text.Ranges

/-!
# Comparing text without regard to case

Two comparisons are in use.  `sameIgnoringCase` folds the 26 letters of ASCII
and nothing else; `lower` is the full lower-case form of a text, in which a
capital sigma depends on what stands around it.
-/

namespace Provision.Text

/-- A character in lower case, if it is a letter of ASCII. -/
def lowerAscii (char : Char) : Char :=
  if 'A' ≤ char ∧ char ≤ 'Z' then Char.ofNat (char.toNat + 32) else char

/-- Whether two texts agree when the letters of ASCII are taken in lower case. -/
def sameIgnoringCase (left right : String) : Bool :=
  left.toList.map lowerAscii = right.toList.map lowerAscii

/-- Whether a character is a letter with a case. -/
def isCased (char : Char) : Bool := inRanges casedRanges char.toNat

/-- Whether a character is passed over in search of a letter with a case. -/
def isCaseIgnorable (char : Char) : Bool := inRanges caseIgnorableRanges char.toNat

/-- Whether the first character that is not passed over is a letter with a case. -/
def meetsCased (text : List Char) : Bool :=
  match text.dropWhile isCaseIgnorable with
  | [] => false
  | char :: _ => isCased char

/-- The lower-case form of a character other than the capital sigma. -/
def lowerChar (char : Char) : List Char :=
  if char = '\u0130' then ['i', '\u0307']
  else
    match lowerRuns.find? fun (first, last, step, _) =>
        first ≤ char.toNat && char.toNat ≤ last && (char.toNat - first) % step == 0 with
    | some (_, _, _, distance) => [Char.ofNat ((char.toNat : Int) + distance).toNat]
    | none => [char]

/-- The lower-case form of the characters in `text` that follow those in `before`, which are held
in reverse; a capital sigma at the end of a word has a form of its own. -/
def lowerAfter (before : List Char) : List Char → List Char
  | [] => []
  | char :: text =>
    let form :=
      if char = '\u03A3' then
        if meetsCased before && !meetsCased text then ['\u03C2'] else ['\u03C3']
      else lowerChar char
    form ++ lowerAfter (char :: before) text

/-- The lower-case form of a text. -/
def lower (text : String) : String :=
  String.ofList (lowerAfter [] text.toList)

end Provision.Text
