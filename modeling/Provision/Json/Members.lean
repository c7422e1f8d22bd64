/-!
# Members by name

The members of an object, the attributes of an item and the fields of a record
are kept as lists of named values in the order of the names, each name at most
once.  `insert` keeps that order, so that two lists with the same members are
the same list; `Sorted` states it.
-/

namespace Provision.Members

variable {Value : Type}

/-- The value of the member called `name`. -/
def find? (name : String) : List (String × Value) → Option Value
  | [] => none
  | (other, value) :: rest => if other = name then some value else find? name rest

/-- Whether there is a member called `name`. -/
def has (name : String) (members : List (String × Value)) : Bool :=
  (find? name members).isSome

/-- Sets the member called `name`, replacing the one there was. -/
def insert (name : String) (value : Value) : List (String × Value) → List (String × Value)
  | [] => [(name, value)]
  | (other, kept) :: rest =>
    if name = other then (name, value) :: rest
    else if name < other then (name, value) :: (other, kept) :: rest
    else (other, kept) :: insert name value rest

/-- Sets the member called `name` unless there is one. -/
def insertNew (name : String) (value : Value) (members : List (String × Value)) :
    List (String × Value) :=
  if has name members then members else insert name value members

/-- Sets every member of `changes`, the later ones over the earlier ones. -/
def override (members changes : List (String × Value)) : List (String × Value) :=
  changes.foldl (fun members (name, value) => insert name value members) members

/-- The members in order, the last one of each name. -/
def ofList (members : List (String × Value)) : List (String × Value) :=
  override [] members

/-- The members that are not called `name`. -/
def erase (name : String) (members : List (String × Value)) : List (String × Value) :=
  members.filter fun (other, _) => other ≠ name

/-- The members whose name is none of `names`. -/
def without (names : List String) (members : List (String × Value)) : List (String × Value) :=
  members.filter fun (other, _) => !names.contains other

/-- The names stand in increasing order. -/
def Sorted (members : List (String × Value)) : Prop :=
  members.Pairwise fun left right => left.1 < right.1

end Provision.Members
