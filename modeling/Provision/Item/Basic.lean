import Provision.Argument

/-!
# Items and their desired definitions

An item is a sub-resource that a person refers to by its key and the server by
its id.  Some kinds of item have a gate that can be open or shut; for those
without one `enabled` is `none` and `setEnabled` changes nothing.

A specification is everything about an item but its id: `build` makes the item
that has a given id, and takes nothing over from an earlier version of it.
-/

namespace Provision

/-- A kind of item. -/
class Item (Element : Type) where
  /-- The id the server knows the item by. -/
  id : Element → String
  /-- The key a person knows the item by. -/
  key : Element → String
  /-- Whether the item's gate is open, for the kinds that have a gate. -/
  enabled : Element → Option Bool
  /-- Opens or shuts the item's gate, if it has one. -/
  setEnabled : Bool → Element → Element

/-- A kind of definition of the items of one kind. -/
class Specification (Spec : Type) (Element : outParam Type) where
  /-- The key of the item. -/
  key : Spec → String
  /-- What is wrong with the definition, if anything is. -/
  validate : Spec → Except PlanError Unit
  /-- The item with a given id. -/
  build : Spec → String → Element

end Provision
