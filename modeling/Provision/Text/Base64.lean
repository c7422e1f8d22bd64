/-!
# Bytes in 64 characters
-/

namespace Provision.Text.Base64

/-- The character for six bits. -/
def charOf (bits : Nat) : Char :=
  if bits < 26 then Char.ofNat ('A'.toNat + bits)
  else if bits < 52 then Char.ofNat ('a'.toNat + (bits - 26))
  else if bits < 62 then Char.ofNat ('0'.toNat + (bits - 52))
  else if bits = 62 then '+' else '/'

/-- The first `count` of the four characters for 24 bits. -/
def chars (count bits : Nat) : List Char :=
  ([bits >>> 18, bits >>> 12, bits >>> 6, bits].map fun part => charOf (part % 64)).take count

/-- Bytes as text, padded to a multiple of four characters. -/
def encode : List UInt8 → List Char
  | [] => []
  | [first] => chars 2 (first.toNat <<< 16) ++ ['=', '=']
  | [first, second] => chars 3 (first.toNat <<< 16 + second.toNat <<< 8) ++ ['=']
  | first :: second :: third :: rest =>
    chars 4 (first.toNat <<< 16 + second.toNat <<< 8 + third.toNat) ++ encode rest

end Provision.Text.Base64
