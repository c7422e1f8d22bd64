import Provision.Text.Utf8

/-!
# Percent-encoding

Each part of a URL has characters that may not stand in it as they are; they are
written as `%` and two hexadecimal digits for each of their bytes.  Characters
outside ASCII and control characters are encoded everywhere.
-/

namespace Provision.Url

/-- A hexadecimal digit in upper case. -/
def hexDigit (value : Nat) : Char :=
  if value < 10 then Char.ofNat ('0'.toNat + value) else Char.ofNat ('A'.toNat + (value - 10))

/-- The escape of a byte. -/
def escapeByte (byte : UInt8) : List Char :=
  ['%', hexDigit (byte.toNat / 16), hexDigit (byte.toNat % 16)]

/-- Whether a character is encoded in every part of a URL. -/
def isControl (char : Char) : Bool := char.toNat < 0x20 || 0x7F ≤ char.toNat

/-- The characters besides the controls that are encoded in a path. -/
def pathReserved : List Char := [' ', '"', '<', '>', '`', '#', '?', '\x7b', '\x7d']

/-- The characters besides the controls that are encoded in a query. -/
def queryReserved : List Char := [' ', '"', '<', '>', '#']

/-- The characters besides the controls that are encoded in a user name or a password. -/
def userReserved : List Char := pathReserved ++ ['/', ':', ';', '=', '@', '[', '\\', ']', '^', '|']

/-- Percent-encodes the controls and the reserved characters. -/
def percentEncode (reserved : List Char) (text : List Char) : List Char :=
  text.flatMap fun char =>
    if isControl char || reserved.contains char then
      (String.utf8EncodeChar char).flatMap escapeByte
    else [char]

/-- The bytes of a percent-encoded text; a `%` that begins no escape stands for itself. -/
def percentDecode : List UInt8 → List UInt8
  | [] => []
  | [byte] => [byte]
  | [byte, other] => [byte, other]
  | byte :: high :: low :: rest =>
    match Text.hexValue? (Char.ofNat high.toNat), Text.hexValue? (Char.ofNat low.toNat) with
    | some upper, some lower =>
      if byte = 0x25 then UInt8.ofNat (upper * 16 + lower) :: percentDecode rest
      else byte :: percentDecode (high :: low :: rest)
    | _, _ => byte :: percentDecode (high :: low :: rest)

end Provision.Url
