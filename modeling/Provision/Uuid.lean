/-!
# Random identifiers

An identifier of version 4 is made of 128 bits, of which six are fixed.
-/

namespace Provision.Uuid

/-- The lowest `count` hexadecimal digits of a number. -/
def hexDigits (count value : Nat) : String :=
  let digits := Nat.toDigits 16 (value % Nat.pow 16 count)
  String.ofList (List.replicate (count - digits.length) '0' ++ digits)

/-- The identifier whose free bits are taken from a number. -/
def ofNat (bits : Nat) : String :=
  hexDigits 8 (bits >>> 90) ++ "-" ++ hexDigits 4 (bits >>> 74) ++ "-4"
    ++ hexDigits 3 (bits >>> 62) ++ "-" ++ hexDigits 4 (0x8000 + (bits >>> 48) % 0x4000) ++ "-"
    ++ hexDigits 12 bits

end Provision.Uuid
