import Provision.Listing

/-!
# The directory

The directory holds applications and service principals.  It is addressed by
paths below a base URL.
-/

namespace Provision

/-- Where the directory is, and how many pages of a list are read at most. -/
structure Directory where
  base : String
  pageLimit : Nat
deriving Repr

namespace Directory

/-- The directory at a base URL, which may end in slashes. -/
def ofBase (base : String) (pageLimit : Nat) : Directory :=
  ⟨Text.dropTrailing '/' base, pageLimit⟩

/-- The URL of a path. -/
def url (directory : Directory) (path : String) : String :=
  directory.base ++ "/" ++ Text.dropLeading '/' path

/-- The URL by which one object refers to another. -/
def objectReference (directory : Directory) (objectId : String) : String :=
  directory.url ("directoryObjects/" ++ objectId)

/-- Reads the document at a path. -/
def read {Value : Type} (directory : Directory) (value? : Json → Option Value) (what path : String) :
    Program OperationError Value :=
  readDocument value? what (directory.url path)

/-- Reads the list at a path. -/
def list {Element : Type} (directory : Directory) (element? : Json → Option Element)
    (what path : String) : Program OperationError (List Element) :=
  readPages element? what directory.pageLimit (directory.url path)

/-- Adds a document to the list at a path. -/
def post (directory : Directory) (path : String) (body : Json) : Program RemoteError Json :=
  Program.request ⟨.post, directory.url path, some body⟩

/-- Changes the document at a path. -/
def patch (directory : Directory) (path : String) (body : Json) : Program RemoteError Json :=
  Program.request ⟨.patch, directory.url path, some body⟩

/-- Deletes the document at a path. -/
def delete (directory : Directory) (path : String) : Program RemoteError Unit := do
  let _ ← Program.request ⟨.delete, directory.url path, none⟩

end Directory

end Provision
