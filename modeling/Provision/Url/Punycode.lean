/-!
# Labels of a host name in ASCII

A label with characters outside ASCII is written with the letters, digits and
hyphens it holds, followed by the insertions of its other characters in
increasing order.  An insertion is a number in a mixed base whose digits adapt to
the ones before.  `encode` and `decode?` change between the two forms.
-/

namespace Provision.Url.Punycode

/-- The threshold of the digit at a place, counted in steps of the base. -/
def threshold (place bias : Nat) : Nat :=
  if place ≤ bias then 1 else if bias + 26 ≤ place then 26 else place - bias

theorem threshold_pos (place bias : Nat) : 0 < threshold place bias := by
  unfold threshold
  split
  · omega
  · split <;> omega

theorem threshold_le (place bias : Nat) : threshold place bias ≤ 26 := by
  unfold threshold
  split
  · omega
  · split <;> omega

/-- The bias that follows from a distance, which is divided until it is small. -/
def settle (delta place : Nat) : Nat :=
  if 455 < delta then settle (delta / 35) (place + 36) else place + 36 * delta / (delta + 38)
termination_by delta
decreasing_by exact Nat.div_lt_self (by omega) (by omega)

/-- The bias after an insertion. -/
def adapt (delta points : Nat) (first : Bool) : Nat :=
  let delta := if first then delta / 700 else delta / 2
  settle (delta + delta / points) 0

/-- A digit of an insertion. -/
def digitChar (value : Nat) : Char :=
  if value < 26 then Char.ofNat ('a'.toNat + value) else Char.ofNat ('0'.toNat + (value - 26))

/-- The value of a digit of an insertion. -/
def digitValue? (digit : Char) : Option Nat :=
  if 'a' ≤ digit ∧ digit ≤ 'z' then some (digit.toNat - 'a'.toNat)
  else if 'A' ≤ digit ∧ digit ≤ 'Z' then some (digit.toNat - 'A'.toNat)
  else if '0' ≤ digit ∧ digit ≤ '9' then some (digit.toNat - '0'.toNat + 26)
  else none

/-- The digits of an insertion. -/
def encodeNumber (bias place number : Nat) : List Char :=
  let limit := threshold place bias
  if number < limit then [digitChar number]
  else
    digitChar (limit + (number - limit) % (36 - limit)) ::
      encodeNumber bias (place + 36) ((number - limit) / (36 - limit))
termination_by number
decreasing_by
  have positive := threshold_pos place bias
  have small := threshold_le place bias
  calc (number - threshold place bias) / (36 - threshold place bias)
      ≤ number - threshold place bias := Nat.div_le_self _ _
    _ < number := by omega

/-- Where an encoding stands: the code point looked for, the distance since the last insertion, the
bias, and the number of characters written. -/
structure State where
  point : Nat
  delta : Nat
  bias : Nat
  written : Nat

/-- The insertions of the characters with the state's code point, in their order. -/
def encodePoint (basic : Nat) : List Char → State → List Char × State
  | [], state => ([], state)
  | char :: rest, state =>
    if char.toNat < state.point then encodePoint basic rest { state with delta := state.delta + 1 }
    else if char.toNat = state.point then
      let digits := encodeNumber state.bias 36 state.delta
      let bias := adapt state.delta (state.written + 1) (state.written = basic)
      let (more, final) :=
        encodePoint basic rest ⟨state.point, 0, bias, state.written + 1⟩
      (digits ++ more, final)
    else encodePoint basic rest state

/-- The insertions of the code points of `points`, which stand in increasing order. -/
def encodePoints (basic : Nat) (label : List Char) : List Nat → State → List Char
  | [], _ => []
  | point :: points, state =>
    let delta := state.delta + (point - state.point) * (state.written + 1)
    let (digits, state) := encodePoint basic label { state with point, delta }
    digits ++ encodePoints basic label points
      { state with point := point + 1, delta := state.delta + 1 }

/-- Inserts a number into an increasing list that does not hold it. -/
def insertPoint (point : Nat) : List Nat → List Nat
  | [] => [point]
  | other :: rest =>
    if point < other then point :: other :: rest
    else if point = other then other :: rest
    else other :: insertPoint point rest

/-- The form of a label in ASCII, without its mark at the beginning. -/
def encode (label : List Char) : List Char :=
  let basic := label.filter fun char => char.toNat < 0x80
  let points := (label.filter fun char => 0x80 ≤ char.toNat).foldr
    (fun char points => insertPoint char.toNat points) []
  let head := if basic.isEmpty then [] else basic ++ ['-']
  head ++ encodePoints basic.length label points ⟨0x80, 0, 72, basic.length⟩

/-- Reads one insertion: its number, and the digits left, which are fewer. -/
def decodeNumber? (bias place weight : Nat) :
    (digits : List Char) → Option (Nat × { rest : List Char // rest.length < digits.length })
  | [] => none
  | digit :: rest => do
    let value ← digitValue? digit
    let limit := threshold place bias
    if value < limit then return (value * weight, ⟨rest, by simp⟩)
    else
      let (more, left) ← decodeNumber? bias (place + 36) (weight * (36 - limit)) rest
      return (value * weight + more,
        ⟨left.val, Nat.lt_trans left.property (by simp)⟩)

/-- Makes the insertions into `label` one after the other, from a code point and a place on. -/
def decodeFrom? (point index bias : Nat) (first : Bool) (label digits : List Char) :
    Option (List Char) :=
  if digits.isEmpty then some label
  else
    match decodeNumber? bias 36 1 digits with
    | none => none
    | some (number, rest) =>
      let size := label.length + 1
      let point := point + (index + number) / size
      let index := (index + number) % size
      if 0x10FFFF < point ∨ (0xD800 ≤ point ∧ point ≤ 0xDFFF) then none
      else
        decodeFrom? point (index + 1) (adapt number size first) false
          (label.take index ++ Char.ofNat point :: label.drop index) rest.val
termination_by digits.length
decreasing_by exact rest.property

/-- The label that a form in ASCII stands for, without its mark at the beginning. -/
def decode? (text : List Char) : Option (List Char) :=
  let tail := (text.reverse.takeWhile (· ≠ '-')).reverse
  let head := text.take (text.length - tail.length - 1)
  if text.any fun char => 0x80 ≤ char.toNat then none
  else decodeFrom? 0x80 0 72 true head (if head.isEmpty then text else tail)

end Provision.Url.Punycode
