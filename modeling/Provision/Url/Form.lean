import Provision.Url.Percent

/-!
# Form encoding

Named values are written as `name=value` pairs joined by `&`.  A space is
written as `+`, and every byte that is no letter, digit or one of `*`, `-`, `.`
and `_` as an escape, so that no name or value can be taken for more than one.
-/

namespace Provision.Url.Form

/-- Whether a byte stands for itself. -/
def isPlain (byte : UInt8) : Bool :=
  (0x30 ≤ byte && byte ≤ 0x39) || (0x41 ≤ byte && byte ≤ 0x5A) || (0x61 ≤ byte && byte ≤ 0x7A)
    || byte = 0x2A || byte = 0x2D || byte = 0x2E || byte = 0x5F

/-- The characters that a byte is written with. -/
def encodeByte (byte : UInt8) : List Char :=
  if byte = 0x20 then ['+']
  else if isPlain byte then [Char.ofNat byte.toNat]
  else escapeByte byte

/-- A name or a value. -/
def encodeText (text : String) : List Char :=
  (Text.Utf8.encode text.toList).flatMap encodeByte

/-- A named value. -/
def encodePair (pair : String × String) : List Char :=
  encodeText pair.1 ++ '=' :: encodeText pair.2

/-- Named values one after the other. -/
def encodePairs : List (String × String) → List Char
  | [] => []
  | [pair] => encodePair pair
  | pair :: next :: rest => encodePair pair ++ '&' :: encodePairs (next :: rest)

/-- Named values as the text of a query or of a body. -/
def encode (pairs : List (String × String)) : String :=
  String.ofList (encodePairs pairs)

end Provision.Url.Form
