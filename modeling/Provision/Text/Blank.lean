import Provision.Text.Basic
import Provision.Text.Ranges

/-!
# Blank characters

The characters with the White_Space property of the Unicode standard are the
blanks.  Input is trimmed of them at both ends, and a text made of nothing
else counts as empty.
-/

namespace Provision.Text

/-- The characters with the White_Space property, as closed ranges of code points. -/
def blankRanges : List (Nat × Nat) :=
  [(0x09, 0x0D), (0x20, 0x20), (0x85, 0x85), (0xA0, 0xA0), (0x1680, 0x1680), (0x2000, 0x200A),
    (0x2028, 0x2029), (0x202F, 0x202F), (0x205F, 0x205F), (0x3000, 0x3000)]

/-- Whether a character is a blank. -/
def isBlank (char : Char) : Bool :=
  inRanges blankRanges char.toNat

/-- The characters from the first to the last that is not a blank. -/
def trimChars (text : List Char) : List Char :=
  ((text.dropWhile isBlank).reverse.dropWhile isBlank).reverse

/-- `text` without the blanks at both ends. -/
def trim (text : String) : String :=
  String.ofList (trimChars text.toList)

/-- The trimmed text, when anything is left of it. -/
def nonBlank? (text : String) : Option String :=
  let trimmed := trim text
  if trimmed = "" then none else some trimmed

end Provision.Text
