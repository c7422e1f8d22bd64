import Provision.Listing
import Provision.Url.Form

/-!
# The resource manager

The resource manager holds the resources of subscriptions, divided into groups.
It is addressed by resource ids, which are paths from the subscription down, and
every request names the version of the interface it means.
-/

namespace Provision

/-- Where the resource manager is, the group of resources that is worked on, and how many pages of
a list are read at most. -/
structure ResourceManager where
  base : String
  subscriptionId : String
  resourceGroup : String
  pageLimit : Nat
deriving Repr

namespace ResourceManager

/-- The resource manager at a base URL, which may end in slashes. -/
def ofBase (base subscriptionId resourceGroup : String) (pageLimit : Nat) : ResourceManager :=
  ⟨Text.dropTrailing '/' base, subscriptionId, resourceGroup, pageLimit⟩

/-- The resource id of the subscription. -/
def subscriptionPath (manager : ResourceManager) : String :=
  "/subscriptions/" ++ manager.subscriptionId

/-- The resource id of the group. -/
def resourceGroupPath (manager : ResourceManager) : String :=
  manager.subscriptionPath ++ "/resourceGroups/" ++ manager.resourceGroup

/-- The URL of a resource id, with the version of the interface and further named values. -/
def url (manager : ResourceManager) (resourceId version : String)
    (query : List (String × String)) : String :=
  manager.base ++ "/" ++ Text.dropLeading '/' resourceId ++ "?"
    ++ Url.Form.encode (("api-version", version) :: query)

/-- Reads the document of a resource id. -/
def read {Value : Type} (manager : ResourceManager) (value? : Json → Option Value)
    (what resourceId version : String) : Program OperationError Value :=
  readDocument value? what (manager.url resourceId version [])

/-- Reads the list of a resource id. -/
def list {Element : Type} (manager : ResourceManager) (element? : Json → Option Element)
    (what resourceId version : String) (query : List (String × String)) :
    Program OperationError (List Element) :=
  readPages element? what manager.pageLimit (manager.url resourceId version query)

/-- Creates or replaces the document of a resource id. -/
def put (manager : ResourceManager) (resourceId version : String) (body : Json) :
    Program RemoteError Json :=
  Program.request ⟨.put, manager.url resourceId version [], some body⟩

/-- Deletes the document of a resource id. -/
def delete (manager : ResourceManager) (resourceId version : String) :
    Program RemoteError Unit := do
  let _ ← Program.request ⟨.delete, manager.url resourceId version [], none⟩

end ResourceManager

end Provision
