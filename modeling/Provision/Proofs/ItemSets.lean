import Provision.Directory.ItemSet
import Provision.Proofs.Lossless

/-!
# Collections inside an application document

An item set is read at the end of a path of member names and written by setting
the member at the root of that path.  What is read after such a write is what
was written, and a set with another root, like every other member, is found as
it was before.
-/

namespace Provision

open Record (Lossless)

namespace ItemSet

variable {Element Other : Type} [Record Element] [Record Other] {itemSet : ItemSet Element}
  {other : ItemSet Other} {collection : Collection Element}
  {members : List (String × Json)} {document : Json}

/-- The member of the application that holds the collection. -/
def root (itemSet : ItemSet Element) : String := itemSet.path.headD ""

/-- The members that are set to replace the collection. -/
def changes (itemSet : ItemSet Element) (collection : Collection Element) :
    List (String × Json) :=
  [(itemSet.root, wrap itemSet.path.tail (encode collection))]

/-- The members of an application after the collection was replaced. -/
def put (itemSet : ItemSet Element) (collection : Collection Element)
    (members : List (String × Json)) : List (String × Json) :=
  Members.override members (itemSet.changes collection)

theorem patchBody_eq (below : itemSet.path ≠ []) :
    itemSet.patchBody collection = .object (itemSet.changes collection) := by
  cases path : itemSet.path with
  | nil => exact absurd path below
  | cons root rest => simp [patchBody, changes, ItemSet.root, path, wrap]

theorem partAt?_wrap (path : List String) (part : Json) :
    partAt? path (wrap path part) = some part := by
  induction path with
  | nil => rfl
  | cons name path ih => simp [wrap, partAt?, Json.get?, Json.members?, Members.find?, ih]

theorem extract?_of_partAt? (found : partAt? itemSet.path document = some (encode collection))
    (lossless : ∀ item ∈ collection.items, Lossless item) :
    itemSet.extract? document = some collection := by
  have back : decode? (encode collection) = some collection :=
    Collection.lossless_of_items lossless
  simp only [encode] at found back
  simp only [extract?, found, back]

/-- What was written is read again. -/
theorem extract?_put (below : itemSet.path ≠ [])
    (lossless : ∀ item ∈ collection.items, Lossless item) :
    itemSet.extract? (.object (itemSet.put collection members)) = some collection := by
  apply extract?_of_partAt? _ lossless
  cases path : itemSet.path with
  | nil => exact absurd path below
  | cons root rest =>
      simp [put, changes, ItemSet.root, path, partAt?, Json.get?, Json.members?, partAt?_wrap]

/-- Members beside the root are left as they are. -/
theorem find?_put_of_ne {name : String} (different : name ≠ itemSet.root) :
    Members.find? name (itemSet.put collection members) = Members.find? name members :=
  Members.find?_insert_of_ne different

/-- A set with another root is left as it is. -/
theorem extract?_put_of_ne (below : other.path ≠ []) (apart : other.root ≠ itemSet.root) :
    other.extract? (.object (itemSet.put collection members)) =
      other.extract? (.object members) := by
  have samePart : partAt? other.path (.object (itemSet.put collection members)) =
      partAt? other.path (.object members) := by
    cases path : other.path with
    | nil => exact absurd path below
    | cons root rest =>
        have root_ne : root ≠ itemSet.root := by simpa [ItemSet.root, path] using apart
        simp [partAt?, Json.get?, Json.members?, find?_put_of_ne root_ne]
  simp only [extract?, samePart]

/-- Of two collections that are put the later one stays. -/
theorem put_put {later : Collection Element} :
    itemSet.put later (itemSet.put collection members) = itemSet.put later members :=
  Members.insert_insert

/-- The members of an application after collections were put one after the other. -/
def putAll (itemSet : ItemSet Element) (written : List (Collection Element))
    (members : List (String × Json)) : List (String × Json) :=
  written.foldl (fun members collection => itemSet.put collection members) members

/-- Of the collections that were put one after the other the last one is read. -/
theorem extract?_putAll (below : itemSet.path ≠ []) {written : List (Collection Element)}
    (lossless : ∀ collection ∈ written, ∀ item ∈ collection.items, Lossless item)
    (decoded : itemSet.extract? (.object members) = some collection) :
    itemSet.extract? (.object (itemSet.putAll written members)) =
      some (written.getLastD collection) := by
  induction written generalizing members collection with
  | nil => simpa [putAll] using decoded
  | cons first rest ih =>
      rw [List.getLastD_cons]
      apply ih
      · intro later later_mem
        exact lossless later (List.mem_cons_of_mem _ later_mem)
      · exact extract?_put below (lossless first (by simp))

theorem find?_putAll_of_ne {name : String} {written : List (Collection Element)}
    (different : name ≠ itemSet.root) :
    Members.find? name (itemSet.putAll written members) = Members.find? name members := by
  induction written generalizing members with
  | nil => rfl
  | cons first rest ih => exact ih.trans (find?_put_of_ne different)

theorem extract?_putAll_of_ne (below : other.path ≠ []) {written : List (Collection Element)}
    (apart : other.root ≠ itemSet.root) :
    other.extract? (.object (itemSet.putAll written members)) =
      other.extract? (.object members) := by
  induction written generalizing members with
  | nil => rfl
  | cons first rest ih => exact ih.trans (extract?_put_of_ne below apart)

theorem below_permissionScopes : permissionScopes.path ≠ [] := by simp [permissionScopes]

theorem below_identifierUris : identifierUris.path ≠ [] := by simp [identifierUris]

theorem partAt?_ordered {path : List String} {part : Json} (ordered : document.Ordered)
    (found : partAt? path document = some part) : part.Ordered := by
  induction path generalizing document with
  | nil =>
      simp only [partAt?, Option.some.injEq] at found
      exact found ▸ ordered
  | cons name path ih =>
      simp only [partAt?, Option.bind_eq_some_iff] at found
      rcases found with ⟨value, isMember, foundBelow⟩
      exact ih (ordered.get? isMember) foundBelow

/-- The items that are read from an ordered application are lossless. -/
theorem lossless_items_of_extract? [Item Element] [Item.Durable Element]
    (ordered : document.Ordered) (extracted : itemSet.extract? document = some collection) :
    ∀ item ∈ collection.items, Lossless item := by
  have empty {read : Collection Element} (isEmpty : (⟨[]⟩ : Collection Element) = read) :
      ∀ item ∈ read.items, Lossless item := by
    simp [← isEmpty]
  cases part : partAt? itemSet.path document with
  | none => exact empty (by simpa [extract?, part] using extracted)
  | some found =>
      cases found with
      | null => exact empty (by simpa [extract?, part] using extracted)
      | _ =>
          exact Collection.lossless_items_of_decode (partAt?_ordered ordered part)
            (by simpa [extract?, part] using extracted)

end ItemSet

end Provision
