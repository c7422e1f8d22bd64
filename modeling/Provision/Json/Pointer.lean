import Provision.Json.Basic

/-!
# Pointers into a document

A pointer such as `/api/items/0` names a part of a document by the members and
elements on the way to it, given here as the list of its steps.  An element is
named by its index in decimal digits without leading zeros.
-/

namespace Provision.Json

/-- The index that a step of a pointer names. -/
def pointerIndex? (step : List Char) : Option Nat :=
  match step with
  | [] => none
  | '0' :: _ :: _ => none
  | digits => digits.foldlM (fun value digit => (Text.digitValue? digit).map (value * 10 + ·)) 0

/-- The part of a document that the steps lead to. -/
def follow? : List (List Char) → Json → Option Json
  | [], document => some document
  | step :: steps, .object members =>
    (Members.find? (String.ofList step) members).bind (follow? steps)
  | step :: steps, .array elements =>
    (pointerIndex? step).bind fun index => elements[index]?.bind (follow? steps)
  | _ :: _, _ => none

end Provision.Json
