import Provision.Text.Basic

/-!
# Text as bytes

`Utf8.encode` writes characters as UTF-8 bytes and `Utf8.decode` reads bytes,
with `none` for each longest run of bytes that begins a character without
completing one.  `decodeLossy` puts the replacement character in the place of
such a run, and `decode?` accepts only bytes without one.
-/

namespace Provision.Text.Utf8

/-- The bytes of characters. -/
def encode (text : List Char) : List UInt8 :=
  text.flatMap String.utf8EncodeChar

/-- What the first byte of a character of several bytes announces: the range of the byte after it,
the number of bytes after that one, and its own bits of the code point. -/
def lead? (byte : UInt8) : Option (UInt8 × UInt8 × Nat × Nat) :=
  if 0xC2 ≤ byte ∧ byte ≤ 0xDF then some (0x80, 0xBF, 0, byte.toNat - 0xC0)
  else if byte = 0xE0 then some (0xA0, 0xBF, 1, 0)
  else if byte = 0xED then some (0x80, 0x9F, 1, 0xD)
  else if 0xE1 ≤ byte ∧ byte ≤ 0xEF then some (0x80, 0xBF, 1, byte.toNat - 0xE0)
  else if byte = 0xF0 then some (0x90, 0xBF, 2, 0)
  else if 0xF1 ≤ byte ∧ byte ≤ 0xF3 then some (0x80, 0xBF, 2, byte.toNat - 0xF0)
  else if byte = 0xF4 then some (0x80, 0x8F, 2, 4)
  else none

/-- A character of which some bytes are read: the range of the next byte, how many follow it, and
the bits so far. -/
structure Pending where
  low : UInt8
  high : UInt8
  more : Nat
  bits : Nat

/-- Reads bytes after an unfinished character, or at the beginning of one. -/
def decodeFrom : Option Pending → List UInt8 → List (Option Char)
  | none, [] => []
  | some _, [] => [none]
  | none, byte :: rest =>
    if byte < 0x80 then some (Char.ofNat byte.toNat) :: decodeFrom none rest
    else
      match lead? byte with
      | some (low, high, more, bits) => decodeFrom (some ⟨low, high, more, bits⟩) rest
      | none => none :: decodeFrom none rest
  | some pending, byte :: rest =>
    if pending.low ≤ byte ∧ byte ≤ pending.high then
      let bits := pending.bits * 0x40 + (byte.toNat - 0x80)
      match pending.more with
      | 0 => some (Char.ofNat bits) :: decodeFrom none rest
      | more + 1 => decodeFrom (some ⟨0x80, 0xBF, more, bits⟩) rest
    else if byte < 0x80 then none :: some (Char.ofNat byte.toNat) :: decodeFrom none rest
    else
      match lead? byte with
      | some (low, high, more, bits) => none :: decodeFrom (some ⟨low, high, more, bits⟩) rest
      | none => none :: none :: decodeFrom none rest

/-- The characters of bytes, with `none` for each longest run that belongs to no character. -/
def decode (bytes : List UInt8) : List (Option Char) := decodeFrom none bytes

/-- The character that stands for bytes that are no text. -/
def replacement : Char := '\uFFFD'

/-- The text of bytes, with the replacement character for what is no text. -/
def decodeLossy (bytes : List UInt8) : String :=
  String.ofList ((decode bytes).map fun char => char.getD replacement)

/-- The text of bytes that are one. -/
def decode? (bytes : List UInt8) : Option (List Char) :=
  (decode bytes).mapM id

end Provision.Text.Utf8
