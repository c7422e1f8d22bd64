import Provision.Directory.Basic
import Provision.Item.IdentifierUri
import Provision.Item.Scope
import Provision.Upsert

/-!
# Collections inside an application

Some collections are attributes of an application: they are read with the
application, and written as a whole by changing it.  The functions here fetch
such a collection, plan a change of one item, and write the collections of the
plan one after the other, up to the first failure.
-/

namespace Provision

/-- A collection that is an attribute of an application. -/
structure ItemSet (Element : Type) where
  /-- What an item is called in messages. -/
  label : String
  /-- The member names on the way from the application to the collection. -/
  path : List String
  /-- The members of the application that have to be asked for. -/
  selected : String
  /-- Whether an item has to be disabled before it can be left out. -/
  disableFirst : Bool
deriving Repr

namespace ItemSet

/-- The permission scopes of an application. -/
def permissionScopes : ItemSet Scope :=
  ⟨"permission scope", ["api", "oauth2PermissionScopes"], "id,appId,api", true⟩

/-- The identifier URIs of an application. -/
def identifierUris : ItemSet IdentifierUri :=
  ⟨"identifier URI", ["identifierUris"], "id,appId,identifierUris", false⟩

/-- The part of a document that the member names lead to. -/
def partAt? : List String → Json → Option Json
  | [], document => some document
  | name :: path, document => (document.get? name).bind (partAt? path)

/-- The document that holds nothing but a part at the end of the member names. -/
def wrap : List String → Json → Json
  | [], part => part
  | name :: path, part => .object [(name, wrap path part)]

variable {Element : Type}

/-- The collection of a fetched application; an attribute that is missing is empty. -/
def extract? [Record Element] (itemSet : ItemSet Element) (application : Json) :
    Option (Collection Element) :=
  match partAt? itemSet.path application with
  | none | some .null => some ⟨[]⟩
  | some part => decode? part

/-- The change of an application that replaces the whole collection. -/
def patchBody [Record Element] (itemSet : ItemSet Element)
    (collection : Collection Element) : Json :=
  wrap itemSet.path (encode collection)

end ItemSet

/-- An application as it was fetched for the sake of one of its collections. -/
structure Fetched (Element : Type) where
  objectId : String
  appId : String
  collection : Collection Element

/-- A planned item, and whether it had to be written. -/
structure Applied (Element : Type) where
  upserted : Upserted Element
  written : Bool

namespace Directory

variable {Element Spec : Type} [Item Element] [Record Element]

/-- The ids of an application. -/
def applicationIds? (application : Json) : Option (String × String) := do
  let fields ← application.fields? ["id", "appId"]
  let id ← Json.required Json.text? "id" fields
  let appId ← Json.withDefault Json.text? "" "appId" fields
  return (id, appId)

/-- Fetches a collection of an application. -/
def fetch (directory : Directory) (itemSet : ItemSet Element) (applicationId : String) :
    Program OperationError (Fetched Element) := do
  let what := "application '" ++ applicationId ++ "'"
  let application ← directory.read some what
    ("applications/" ++ applicationId ++ "?$select=" ++ itemSet.selected)
  let some (objectId, appId) := applicationIds? application | .fail (.decode what)
  let some collection := itemSet.extract? application | .fail (.decode itemSet.label)
  return { objectId, appId, collection }

/-- Replaces a collection of an application. -/
def write (directory : Directory) (itemSet : ItemSet Element) (objectId : String)
    (collection : Collection Element) : Program RemoteError Unit := do
  let _ ← directory.patch ("applications/" ++ objectId) (itemSet.patchBody collection)

/-- Creates or replaces an item of a fetched collection; nothing is written when the collection is
the same already. -/
def upsertFetched [DecidableEq Element] [Specification Spec Element] (directory : Directory)
    (itemSet : ItemSet Element) (fetched : Fetched Element) (spec : Spec) :
    Program OperationError (Applied Element) := do
  let current := fetched.collection
  let newId ← Program.freshId
  let upserted ← current.upsert spec newId
  if upserted.collection = current then return ⟨upserted, false⟩
  else
    let key := Specification.key spec
    let verb := if upserted.wasCreated then "adding" else "updating"
    Program.progress (verb ++ " " ++ itemSet.label ++ " '" ++ key ++ "'")
    (directory.write itemSet fetched.objectId upserted.collection).mapFailure
      (.write {
        key
        itemId := if upserted.wasCreated then none else some upserted.itemId
        position := none
        state := ItemState.of current upserted.itemId })
    return ⟨upserted, true⟩

/-- Creates or replaces an item of a collection of an application. -/
def upsertItem [DecidableEq Element] [Specification Spec Element] (directory : Directory)
    (itemSet : ItemSet Element) (applicationId : String) (spec : Spec) :
    Program OperationError (Applied Element) := do
  Specification.validate spec
  let fetched ← directory.fetch itemSet applicationId
  directory.upsertFetched itemSet fetched spec

/-- Writes the collections of the remaining steps of a removal, counted from `index`, up to the
first failure. -/
def writeSteps (directory : Directory) (itemSet : ItemSet Element) (objectId : String)
    (plan : Removal Element) :
    Nat → List (StepPosition × Step Element) → Program OperationError Unit
  | _, [] => return
  | index, (position, step) :: rest => do
    Program.progress (position.text ++ ": " ++ step.kind.name ++ " " ++ itemSet.label ++ " '"
      ++ plan.targetKey ++ "'")
    (directory.write itemSet objectId step.collection).mapFailure
      (.write {
        key := plan.targetKey
        itemId := some plan.targetId
        position := some position
        state := plan.stateIfFailedAt index })
    directory.writeSteps itemSet objectId plan (index + 1) rest

/-- Removes the item with a given key from a collection of an application. -/
def removeItem (directory : Directory) (itemSet : ItemSet Element)
    (applicationId key : String) : Program OperationError (Removal Element) := do
  let fetched ← directory.fetch itemSet applicationId
  let plan ← fetched.collection.removeByKey key itemSet.disableFirst
  directory.writeSteps itemSet fetched.objectId plan 0 plan.positioned
  return plan

end Directory

end Provision
