import Provision.Collection

/-!
# Creating or replacing one item

`upsert` replaces the item that has the key of a specification, or appends a new
one.  The replacement keeps the id of the item and nothing else of it; all other
items stay as they are and where they are.
-/

namespace Provision

/-- A collection to be written back, and the item in it that was created or replaced. -/
structure Upserted (Element : Type) where
  collection : Collection Element
  itemId : String
  wasCreated : Bool
deriving DecidableEq, Repr

namespace Upserted

/-- The first item of the collection with the id of the item that was created or replaced. -/
def item? {Element : Type} [Item Element] (upserted : Upserted Element) : Option Element :=
  upserted.collection.get? upserted.itemId

end Upserted

namespace Collection

variable {Spec Element : Type} [Item Element] [Specification Spec Element]

/-- Replaces the item with the key of `spec`, or appends one that is built with `newId`. -/
def upsert (collection : Collection Element) (spec : Spec) (newId : String) :
    Except PlanError (Upserted Element) := do
  Specification.validate spec
  match ← collection.indexOfKey? (Specification.key spec) with
  | some index =>
    let id := (collection.items[index]?.map Item.id).getD newId
    return ⟨⟨collection.items.set index (Specification.build spec id)⟩, id, false⟩
  | none =>
    let item := Specification.build spec newId
    return ⟨⟨collection.items ++ [item]⟩, Item.id item, true⟩

end Collection

end Provision
