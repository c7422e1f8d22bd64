import Provision.Item.Basic
import Provision.Json.Record

/-!
# Items without a type of their own

An entry has an id, a key, perhaps a gate, and attributes of any name and value.
Two entries count as equal when their attributes stand for the same values, so
that the two zeros among the doubles are not told apart.
-/

namespace Provision

/-- An item with attributes of any name. -/
structure Entry where
  id : String
  key : String
  enabled : Option Bool
  attributes : List (String × Json)
deriving DecidableEq, Inhabited

namespace Entry

/-- Equality up to the sign of zeros among the attributes. -/
def same (left right : Entry) : Bool :=
  left.id = right.id && left.key = right.key && left.enabled = right.enabled
    && Json.sameMembers left.attributes right.attributes

instance (priority := high) : BEq Entry := ⟨same⟩

instance : Item Entry where
  id := Entry.id
  key := Entry.key
  enabled := Entry.enabled
  setEnabled enabled entry := { entry with enabled := entry.enabled.map fun _ => enabled }

/-- The member names that are no attributes. -/
def fieldNames : List String := ["id", "key", "enabled"]

instance : Record Entry where
  encode entry := .object <| Members.override
    (Members.ofList <| Json.present
      [("id", some (.string entry.id)), ("key", some (.string entry.key)),
        ("enabled", entry.enabled.map .bool)])
    entry.attributes
  decode? document := do
    let members ← document.members?
    let id ← Json.required Json.text? "id" members
    let key ← Json.required Json.text? "key" members
    let enabled ← Json.optional Json.flag? "enabled" members
    return { id, key, enabled, attributes := Members.without fieldNames members }

end Entry

/-- The definition of an entry. -/
structure EntrySpec where
  key : String
  enabled : Option Bool
  attributes : List (String × Json)
deriving DecidableEq, Inhabited

instance : Specification EntrySpec Entry where
  key := EntrySpec.key
  validate spec := do
    let _ ← Argument.verbatim "key" spec.key
  build spec id :=
    { id, key := spec.key, enabled := spec.enabled, attributes := spec.attributes }

end Provision
