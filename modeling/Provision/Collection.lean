import Provision.Item.Basic
import Provision.Json.Record

/-!
# Collections of items

A collection is a set of items as it was fetched, in the order the server gave
it: a write carries the whole collection, and must not shuffle what it does not
touch.  Keys ought to be distinct, but the server does not promise it; a lookup
by key therefore refuses a key that several items share instead of choosing one.
-/

namespace Provision

/-- The items of one kind that belong to a resource, in the order of the server. -/
structure Collection (Element : Type) where
  items : List Element
deriving DecidableEq, Repr, Inhabited

namespace Collection

variable {Element : Type}

/-- The number of items. -/
def size (collection : Collection Element) : Nat := collection.items.length

/-- Whether there are no items. -/
def isEmpty (collection : Collection Element) : Bool := collection.items.isEmpty

/-- The items that satisfy a test. -/
def filter (test : Element → Bool) (collection : Collection Element) : List Element :=
  collection.items.filter test

variable [Item Element]

/-- The first item with a given id. -/
def get? (collection : Collection Element) (id : String) : Option Element :=
  collection.items.find? fun item => Item.id item = id

/-- The position of the first item with a given id. -/
def indexOfId? (collection : Collection Element) (id : String) : Option Nat :=
  collection.items.findIdx? fun item => Item.id item = id

/-- The number of items with a given key. -/
def countKey (collection : Collection Element) (key : String) : Nat :=
  collection.items.countP fun item => Item.key item = key

/-- The position of the only item with a given key; refused when several share it. -/
def indexOfKey? (collection : Collection Element) (key : String) :
    Except PlanError (Option Nat) :=
  let count := collection.countKey key
  if 1 < count then .error (.repeatedKey key count)
  else .ok (collection.items.findIdx? fun item => Item.key item = key)

/-- The only item with a given key, if there is one; refused when several share it. -/
def findKey? (collection : Collection Element) (key : String) :
    Except PlanError (Option Element) :=
  (collection.indexOfKey? key).map fun index => index.bind fun index => collection.items[index]?

/-- The only item with a given key. -/
def itemWithKey (collection : Collection Element) (key : String) : Except PlanError Element := do
  match ← collection.findKey? key with
  | some item => return item
  | none => throw (.notFound ("item '" ++ key ++ "'"))

/-- Refuses a list in which a key occurs again after one of its items; the first such key is
reported with the number of its items. -/
def distinctKeys : List Element → Except PlanError Unit
  | [] => .ok ()
  | item :: rest =>
    let count := (item :: rest).countP fun other => Item.key other = Item.key item
    if 1 < count then .error (.repeatedKey (Item.key item) count) else distinctKeys rest

/-- Refuses a collection in which several items share a key. -/
def ensureDistinctKeys (collection : Collection Element) : Except PlanError Unit :=
  distinctKeys collection.items

end Collection

instance {Element : Type} [Record Element] : Record (Collection Element) where
  encode collection := encode collection.items
  decode? document := (decode? document).map Collection.mk

end Provision
