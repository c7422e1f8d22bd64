import Provision.Json.Members
import Provision.Json.Number

/-!
# JSON documents

A document is a value of the type `Json`.  The members of an object are kept in
the order of their names (see `Provision.Members`), so that equal documents are
equal values.  Equality is decidable; `Json.sameValue` differs from it only in
taking the two zeros among the doubles for one number.
-/

namespace Provision

/-- A JSON document. -/
inductive Json where
  | null
  | bool (value : Bool)
  | number (value : Json.Number)
  | string (text : String)
  | array (elements : List Json)
  | object (members : List (String × Json))
deriving Inhabited

namespace Json

mutual

/-- Decides whether two documents are equal. -/
def decideEq : (left right : Json) → Decidable (left = right)
  | .null, .null => isTrue rfl
  | .bool left, .bool right => decidable_of_iff (left = right) (by simp)
  | .number left, .number right => decidable_of_iff (left = right) (by simp)
  | .string left, .string right => decidable_of_iff (left = right) (by simp)
  | .array left, .array right =>
    have := decideEqElements left right
    decidable_of_iff (left = right) (by simp)
  | .object left, .object right =>
    have := decideEqMembers left right
    decidable_of_iff (left = right) (by simp)
  | .null, .bool _ | .null, .number _ | .null, .string _ | .null, .array _ | .null, .object _
  | .bool _, .null | .bool _, .number _ | .bool _, .string _ | .bool _, .array _
  | .bool _, .object _ | .number _, .null | .number _, .bool _ | .number _, .string _
  | .number _, .array _ | .number _, .object _ | .string _, .null | .string _, .bool _
  | .string _, .number _ | .string _, .array _ | .string _, .object _ | .array _, .null
  | .array _, .bool _ | .array _, .number _ | .array _, .string _ | .array _, .object _
  | .object _, .null | .object _, .bool _ | .object _, .number _ | .object _, .string _
  | .object _, .array _ => isFalse (by simp)

/-- Decides whether two lists of documents are equal. -/
def decideEqElements : (left right : List Json) → Decidable (left = right)
  | [], [] => isTrue rfl
  | left :: lefts, right :: rights =>
    have := decideEq left right
    have := decideEqElements lefts rights
    decidable_of_iff (left = right ∧ lefts = rights) (by simp)
  | [], _ :: _ | _ :: _, [] => isFalse (by simp)

/-- Decides whether two lists of members are equal. -/
def decideEqMembers : (left right : List (String × Json)) → Decidable (left = right)
  | [], [] => isTrue rfl
  | (name, left) :: lefts, (other, right) :: rights =>
    have := decideEq left right
    have := decideEqMembers lefts rights
    decidable_of_iff (name = other ∧ left = right ∧ lefts = rights)
      (by simp [Prod.ext_iff, and_assoc])
  | [], _ :: _ | _ :: _, [] => isFalse (by simp)

end

instance : DecidableEq Json := decideEq

mutual

/-- Equality of documents up to the sign of a zero. -/
def sameValue : Json → Json → Bool
  | .null, .null => true
  | .bool left, .bool right => left = right
  | .number left, .number right => left.sameValue right
  | .string left, .string right => left = right
  | .array left, .array right => sameElements left right
  | .object left, .object right => sameMembers left right
  | _, _ => false

/-- Equality of lists of documents up to the sign of a zero. -/
def sameElements : List Json → List Json → Bool
  | [], [] => true
  | left :: lefts, right :: rights => sameValue left right && sameElements lefts rights
  | _, _ => false

/-- Equality of lists of members up to the sign of a zero. -/
def sameMembers : List (String × Json) → List (String × Json) → Bool
  | [], [] => true
  | (name, left) :: lefts, (other, right) :: rights =>
    name = other && sameValue left right && sameMembers lefts rights
  | _, _ => false

end

/-- An object with the given members, the last one of each name. -/
def ofMembers (members : List (String × Json)) : Json :=
  .object (Members.ofList members)

/-- A count as a document. -/
def ofNat (value : Nat) : Json := .number (.int value)

/-- A list of texts as a document. -/
def ofTexts (texts : List String) : Json := .array (texts.map .string)

/-- A text or `null`. -/
def ofOptional : Option String → Json
  | some text => .string text
  | none => .null

/-- The text of a string. -/
def text? : Json → Option String
  | .string text => some text
  | _ => none

/-- The truth value of a boolean. -/
def flag? : Json → Option Bool
  | .bool value => some value
  | _ => none

/-- The elements of an array. -/
def elements? : Json → Option (List Json)
  | .array elements => some elements
  | _ => none

/-- The members of an object. -/
def members? : Json → Option (List (String × Json))
  | .object members => some members
  | _ => none

/-- The member of an object called `name`. -/
def get? (name : String) (document : Json) : Option Json :=
  document.members?.bind (Members.find? name)

end Json

end Provision
