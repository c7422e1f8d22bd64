import Provision.Json.Tree

/-!
# Records in documents

A record is read from an object by the names of its fields, or from an array
by their order, where fields at the end may be missing.  `required`,
`withDefault` and `optional` read one field; only an optional field may be
`null`.  A record with further members of its own kind is read from an object
alone, since it has no order of fields.

`Tree.fields?` reads a record straight from a text: the members that are no
fields of the record are only skipped there, and a repeated field is refused.
-/

namespace Provision

/-- A type of values with a form as a document. -/
class Record (Value : Type) where
  /-- The document of a value. -/
  encode : Value → Json
  /-- The value that a document stands for, if it is of the right form. -/
  decode? : Json → Option Value

export Record (encode decode?)

namespace Json

variable {Value : Type}

/-- The named fields of a record, from an object or from an array in the order of `names`. -/
def fields? (names : List String) : Json → Option (List (String × Json))
  | .object members => some members
  | .array elements =>
    if elements.length ≤ names.length then some (names.zip elements) else none
  | _ => none

/-- A field that has to be there. -/
def required (read? : Json → Option Value) (name : String) (fields : List (String × Json)) :
    Option Value :=
  (Members.find? name fields).bind read?

/-- A field with a value that stands in for it when it is missing. -/
def withDefault (read? : Json → Option Value) (default : Value) (name : String)
    (fields : List (String × Json)) : Option Value :=
  match Members.find? name fields with
  | some document => read? document
  | none => some default

/-- A field that may be missing or `null`. -/
def optional (read? : Json → Option Value) (name : String) (fields : List (String × Json)) :
    Option (Option Value) :=
  match Members.find? name fields with
  | some .null | none => some none
  | some document => (read? document).map some

/-- The values of the elements of a list. -/
def readAll? (read? : Json → Option Value) : List Json → Option (List Value)
  | [] => some []
  | element :: rest => do
    let value ← read? element
    let values ← readAll? read? rest
    return value :: values

/-- The values of the elements of an array. -/
def list? (read? : Json → Option Value) (document : Json) : Option (List Value) :=
  document.elements?.bind (readAll? read?)

/-- The name of a choice among names: the name itself, or an object whose only member has that name
and is `null`. -/
def choice? : Json → Option String
  | .string name => some name
  | .object [(name, .null)] => some name
  | _ => none

/-- The members of an object without those that are absent. -/
def present (members : List (String × Option Json)) : List (String × Json) :=
  members.filterMap fun (name, document) => document.map fun document => (name, document)

namespace Tree

/-- The fields among the members of an object: every name is readable and no field is repeated. -/
def knownMembers? (names : List String) :
    List (Option String × Tree) → Option (List (String × Tree))
  | [] => some []
  | (name, tree) :: rest => do
    let name ← name
    let fields ← knownMembers? names rest
    if names.contains name then
      if Members.has name fields then none else return (name, tree) :: fields
    else return fields

/-- The named fields of a record, from an object or from an array in the order of `names`. -/
def fields? (names : List String) : Tree → Option (List (String × Tree))
  | .object members => knownMembers? names members
  | .array elements =>
    if elements.length ≤ names.length then some (names.zip elements) else none
  | _ => none

/-- The text of a readable string. -/
def text? : Tree → Option String
  | .string text => text
  | _ => none

/-- A field that has to be there. -/
def required (read? : Tree → Option Value) (name : String) (fields : List (String × Tree)) :
    Option Value :=
  (Members.find? name fields).bind read?

/-- A text that is empty when it is missing. -/
def textOrEmpty? (name : String) (fields : List (String × Tree)) : Option String :=
  match Members.find? name fields with
  | some tree => tree.text?
  | none => some ""

end Tree

end Json

instance : Record String where
  encode := .string
  decode? := Json.text?

instance {Value : Type} [Record Value] : Record (List Value) where
  encode values := .array (values.map encode)
  decode? := Json.list? decode?

end Provision
