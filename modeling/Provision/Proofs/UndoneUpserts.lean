import Provision.Proofs.PlannedUpserts

/-!
# Removing what was just upserted

An upsert finds its item by the key; a removal by the key finds an item, takes its id and
looks for the first item with that id.  Both come to the same item as long as the ids tell
the items apart and are written as they are compared, without blanks around them.  A new
item keeps it so if the id it is offered is such an id too, or if its id is its key, which
no other item has.

So the removal of what an upsert has appended restores the collection, and the removal of
what it has replaced leaves all other items.
-/

namespace Provision

/-- A text that is neither blank nor padded. -/
def Text.IsClean (text : String) : Prop := trim text = text ∧ text ≠ ""

/-- A value that is checked first, and accepted as it is written, is clean. -/
theorem Argument.isClean_of_verbatim {Next : Type} {field value : String}
    {next : String → Except PlanError Next} {result : Next}
    (isAccepted : (verbatim field value >>= next) = .ok result) : Text.IsClean value := by
  simp only [verbatim, bind_eq_ok] at isAccepted
  obtain ⟨_, ⟨trimmed, given, unpadded⟩, -⟩ := isAccepted
  obtain ⟨rfl, notBlank⟩ := eq_trim_of_required given
  by_cases same : Text.trim value = value
  · exact ⟨same, same ▸ notBlank⟩
  · simp [same, throw, throwThe, MonadExceptOf.throw] at unpadded

/-- A kind of definition whose keys are looked up as they are written.  Its items take the id that
they are offered, unless every item of the kind has its key for an id. -/
class Specification.Addressed (Spec : Type) {Element : Type} [Item Element]
    [Specification Spec Element] : Prop where
  isClean_key (spec : Spec) (valid : Specification.validate spec = .ok ()) :
    Text.IsClean (Specification.key spec)
  id_build_or (spec : Spec) (id : String) : Item.id (Specification.build spec id : Element) = id ∨
    ∀ item : Element, Item.id item = Item.key item

instance : Specification.Addressed EntrySpec where
  isClean_key _ := Argument.isClean_of_verbatim
  id_build_or _ _ := .inl rfl

instance : Specification.Addressed ScopeSpec where
  isClean_key _ := Argument.isClean_of_verbatim
  id_build_or _ _ := .inl rfl

instance : Specification.Addressed UriSpec where
  isClean_key _ := Argument.isClean_of_verbatim
  id_build_or _ _ := .inr fun _ => rfl

instance : Specification.Addressed CredentialSpec where
  isClean_key _ := Argument.isClean_of_verbatim
  id_build_or _ _ := .inl rfl

namespace Collection

variable {Spec Element : Type} [Item Element] [Specification Spec Element]
  {collection : Collection Element} {spec : Spec} {key newId : String}
  {upserted : Upserted Element} {disableFirst : Bool}

/-- The ids of the items are clean and tell them apart. -/
structure HasCleanIds (collection : Collection Element) : Prop where
  distinct : (collection.items.map Item.id).Nodup
  clean : ∀ item ∈ collection.items, Text.IsClean (Item.id item)

/-- A removal by a key is planned, and takes an item with a certain id.  What it leaves in the end
is given. -/
def RemovesTo (collection : Collection Element) (key : String) (disableFirst : Bool)
    (targetId : String) (remaining : Collection Element) : Prop :=
  ∃ plan, collection.removeByKey key disableFirst = .ok plan ∧ plan.targetId = targetId ∧
    plan.steps.getLast?.map Step.collection = some remaining

/-- Where the ids are clean, the item that has a key for itself is removed by it. -/
theorem HoldsOnly.removesTo {before after : List Element} {item : Element}
    (holds : collection.HoldsOnly key before item after) (ids : collection.HasCleanIds)
    (keyClean : Text.IsClean key) (disableFirst : Bool) :
    collection.RemovesTo key disableFirst (Item.id item) ⟨before ++ after⟩ := by
  obtain ⟨unpadded, notEmpty⟩ := keyClean
  have item_mem : item ∈ collection.items := by simp [holds.items_eq]
  refine ⟨Removal.ofSplit before item after disableFirst, ?_, rfl, ?_⟩
  · apply removeByKey_of_holdsOnly ids.distinct fun other other_mem => (ids.clean other other_mem).1
    · rwa [unpadded]
    · rwa [unpadded]
    · exact (ids.clean item item_mem).2
  · cases disableFirst <;> rfl

theorem HoldsOnly.filter_others {before after : List Element} {item : Element}
    (holds : collection.HoldsOnly key before item after) :
    (collection.filter fun other => Item.key other ≠ key) = before ++ after := by
  have othersKept : (before ++ after).filter (fun other => Item.key other ≠ key) =
      before ++ after := by
    rw [List.filter_eq_self]
    simpa using holds.others
  simpa [filter, holds.items_eq, holds.key_eq] using othersKept

/-- The item that is rebuilt keeps its id, so that the ids stay what they are. -/
theorem HasCleanIds.replaced [Specification.Stable Spec] {before after : List Element}
    {item : Element} (ids : collection.HasCleanIds)
    (holds : collection.HoldsOnly (Specification.key spec) before item after) :
    (⟨before ++ Specification.build spec (Item.id item) :: after⟩ :
      Collection Element).HasCleanIds := by
  have sameId : Item.id (Specification.build spec (Item.id item) : Element) = Item.id item :=
    Specification.Stable.id_build spec item holds.key_eq
  obtain ⟨distinct, clean⟩ := ids
  rw [holds.items_eq] at distinct clean
  constructor
  · simpa [sameId] using distinct
  · apply forall_mem_replaced clean
    rw [sameId]
    exact clean item (by simp)

section Upserts

variable [Specification.Keyed Spec] [Specification.Addressed Spec]

/-- The item that is appended has an id of its own. -/
theorem HasCleanIds.created (ids : collection.HasCleanIds)
    (absent : ∀ item ∈ collection.items, Item.key item ≠ Specification.key spec)
    (keyClean : Text.IsClean (Specification.key spec)) (newClean : Text.IsClean newId)
    (unused : ∀ item ∈ collection.items, Item.id item ≠ newId) :
    (⟨collection.items ++ [Specification.build spec newId]⟩ : Collection Element).HasCleanIds := by
  let built : Element := Specification.build spec newId
  obtain ⟨builtClean, builtUnused⟩ : Text.IsClean (Item.id built) ∧
      ∀ item ∈ collection.items, Item.id item ≠ Item.id built := by
    have offeredOrKey : Item.id built = newId ∨ ∀ item : Element, Item.id item = Item.key item :=
      Specification.Addressed.id_build_or spec newId
    rcases offeredOrKey with isOffered | isKey
    · rw [isOffered]
      exact ⟨newClean, unused⟩
    · simp only [isKey, built, Specification.Keyed.key_build]
      exact ⟨keyClean, absent⟩
  constructor
  · simpa [List.nodup_append] using ⟨ids.distinct, builtUnused⟩
  · intro item item_mem
    rcases List.mem_append.mp item_mem with old_mem | new_mem
    · exact ids.clean item old_mem
    · obtain rfl : item = built := by simpa using new_mem
      exact builtClean

/-- The removal by the key of what was just upserted takes that item.  It restores the collection if
the item was new, and leaves all others if it was not. -/
theorem removesTo_of_upsert [Specification.Stable Spec] (ids : collection.HasCleanIds)
    (newClean : Text.IsClean newId) (unused : ∀ item ∈ collection.items, Item.id item ≠ newId)
    (planned : collection.upsert spec newId = .ok upserted) (disableFirst : Bool) :
    upserted.collection.RemovesTo (Specification.key spec) disableFirst upserted.itemId
      (if upserted.wasCreated then collection
        else ⟨collection.filter fun other => Item.key other ≠ Specification.key spec⟩) := by
  cases upsert_eq_iff_outcome.mp planned with
  | created valid absent =>
      have keyClean := Specification.Addressed.isClean_key spec valid
      have holds : (⟨collection.items ++ [Specification.build spec newId]⟩ :
          Collection Element).HoldsOnly (Specification.key spec) collection.items
            (Specification.build spec newId) [] :=
        ⟨rfl, Specification.Keyed.key_build spec newId, by simpa using absent⟩
      have removes := holds.removesTo (ids.created absent keyClean newClean unused) keyClean
        disableFirst
      rwa [List.append_nil] at removes
  | @replaced before after item valid holds =>
      have rebuilt : (⟨before ++ Specification.build spec (Item.id item) :: after⟩ :
          Collection Element).HoldsOnly (Specification.key spec) before
            (Specification.build spec (Item.id item)) after :=
        ⟨rfl, Specification.Keyed.key_build spec _, holds.others⟩
      have removes := rebuilt.removesTo (ids.replaced holds)
        (Specification.Addressed.isClean_key spec valid) disableFirst
      rw [Specification.Stable.id_build spec item holds.key_eq] at removes
      rwa [← holds.filter_others] at removes

-- if another item has the new id already, it is that item which is removed
example :
    ((⟨[⟨"1", "reader", none, []⟩]⟩ : Collection Entry).upsert (⟨"writer", none, []⟩ : EntrySpec)
      "1").toOption.bind (fun upserted =>
        (upserted.collection.removeByKey "writer" false).toOption.map Removal.targetKey) =
    some "reader" := rfl

end Upserts

/-- What holds of every upsert of one kind of item and the removal of what it has upserted. -/
structure RemovalsUndo (Spec : Type) {Element : Type} [Item Element]
    [Specification Spec Element] : Prop where
  undone {collection : Collection Element} {spec : Spec} {newId : String}
    {upserted : Upserted Element} (ids : collection.HasCleanIds) (newClean : Text.IsClean newId)
    (unused : ∀ item ∈ collection.items, Item.id item ≠ newId)
    (planned : collection.upsert spec newId = .ok upserted) (disableFirst : Bool) :
    upserted.collection.RemovesTo (Specification.key spec) disableFirst upserted.itemId
      (if upserted.wasCreated then collection
        else ⟨collection.filter fun other => Item.key other ≠ Specification.key spec⟩)

theorem removalsUndo [Specification.Keyed Spec] [Specification.Stable Spec]
    [Specification.Addressed Spec] : RemovalsUndo Spec where
  undone := removesTo_of_upsert

/-- What was just upserted is removed by its key, whatever kind of item it is. -/
theorem removals_undo_upserts :
    RemovalsUndo EntrySpec ∧ RemovalsUndo ScopeSpec ∧ RemovalsUndo UriSpec ∧
      RemovalsUndo CredentialSpec :=
  ⟨removalsUndo, removalsUndo, removalsUndo, removalsUndo⟩

end Collection

end Provision
