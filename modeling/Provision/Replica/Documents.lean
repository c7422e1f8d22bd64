import Provision.Json.Basic

/-!
# Documents by path

The documents of a replica stand in the order in which they were first stored;
replacing one does not move it.
-/

namespace Provision.Replica

/-- Documents by path, each path at most once. -/
abbrev Documents := List (String × Json)

namespace Documents

/-- Stores a document, in the place of the one at the same path or after all others. -/
def store (path : String) (document : Json) : Documents → Documents
  | [] => [(path, document)]
  | (other, kept) :: rest =>
    if other = path then (path, document) :: rest else (other, kept) :: store path document rest

/-- The document at a path. -/
def find? (path : String) (documents : Documents) : Option Json :=
  Members.find? path documents

/-- Whether there is a document at a path. -/
def has (path : String) (documents : Documents) : Bool := (find? path documents).isSome

end Documents

end Provision.Replica
