import Provision.Item.Credential
import Provision.Item.Entry
import Provision.Proofs.Planning

/-!
# An upsert and its specification

What an upsert comes to is said here without its searches: it is refused for the
first of the two things that can be wrong, or appends an item whose key is new,
or rebuilds the one item that has the key where it stands.  From this follows
what a second upsert of the same definition does.  It finds the item that the
first one built, whose id is the id it was built with, so it builds the very same
item again, whatever new id it is offered.
-/

namespace Provision

/-- A kind of definition whose items stay what they are when they are built again with their own
id.  An item that has the key of the definition keeps its id as well, which a kind of item whose id
is its key does not take from what it is offered. -/
class Specification.Stable (Spec : Type) {Element : Type} [Item Element]
    [Specification Spec Element] : Prop where
  id_build (spec : Spec) (item : Element) (hasKey : Item.key item = Specification.key spec) :
    Item.id (Specification.build spec (Item.id item) : Element) = Item.id item
  build_id_build (spec : Spec) (id : String) :
    Specification.build spec (Item.id (Specification.build spec id : Element)) =
      (Specification.build spec id : Element)

instance : Specification.Stable EntrySpec where
  id_build _ _ _ := rfl
  build_id_build _ _ := rfl

instance : Specification.Stable ScopeSpec where
  id_build _ _ _ := rfl
  build_id_build _ _ := rfl

instance : Specification.Stable UriSpec where
  id_build _ _ hasKey := hasKey.symm
  build_id_build _ _ := rfl

instance : Specification.Stable CredentialSpec where
  id_build _ _ _ := rfl
  build_id_build _ _ := rfl

instance : Specification.Keyed EntrySpec where
  key_build _ _ := rfl

instance : Specification.Keyed CredentialSpec where
  key_build _ _ := rfl

namespace Collection

variable {Spec Element : Type} [Item Element] [Specification Spec Element]
  {collection : Collection Element} {spec : Spec} {newId : String}
  {result : Except PlanError (Upserted Element)} {upserted : Upserted Element}

/-- What comes of an upsert.  A fault of the definition comes before one of the collection. -/
inductive UpsertOutcome (collection : Collection Element) (spec : Spec) (newId : String) :
    Except PlanError (Upserted Element) → Prop
  /-- The definition is refused with the first thing that is wrong with it. -/
  | invalid {error : PlanError} (refused : Specification.validate spec = .error error) :
      UpsertOutcome collection spec newId (.error error)
  /-- Several items have the key, and the refusal says how many. -/
  | repeated (valid : Specification.validate spec = .ok ())
      (many : 1 < collection.countKey (Specification.key spec)) :
      UpsertOutcome collection spec newId (.error (.repeatedKey (Specification.key spec)
        (collection.countKey (Specification.key spec))))
  /-- No item has the key, and one that is built with the new id is appended. -/
  | created (valid : Specification.validate spec = .ok ())
      (absent : ∀ item ∈ collection.items, Item.key item ≠ Specification.key spec) :
      UpsertOutcome collection spec newId (.ok {
        collection := ⟨collection.items ++ [Specification.build spec newId]⟩
        itemId := Item.id (Specification.build spec newId : Element)
        wasCreated := true })
  /-- One item has the key, and what is built with its id stands in its place. -/
  | replaced {before after : List Element} {item : Element}
      (valid : Specification.validate spec = .ok ())
      (holds : collection.HoldsOnly (Specification.key spec) before item after) :
      UpsertOutcome collection spec newId (.ok {
        collection := ⟨before ++ Specification.build spec (Item.id item) :: after⟩
        itemId := Item.id item
        wasCreated := false })

theorem upsert_of_invalid {error : PlanError}
    (refused : Specification.validate spec = .error error) :
    collection.upsert spec newId = .error error := by
  simp [upsert, refused, bind, Except.bind]

theorem upsert_of_repeated (valid : Specification.validate spec = .ok ())
    (many : 1 < collection.countKey (Specification.key spec)) :
    collection.upsert spec newId = .error (.repeatedKey (Specification.key spec)
      (collection.countKey (Specification.key spec))) := by
  simp [upsert, valid, indexOfKey?, many, bind, Except.bind]

theorem UpsertOutcome.upsert_eq (outcome : UpsertOutcome collection spec newId result) :
    collection.upsert spec newId = result := by
  cases outcome with
  | invalid refused => exact upsert_of_invalid refused
  | repeated valid many => exact upsert_of_repeated valid many
  | created valid absent => exact upsert_eq_of_absent absent valid newId
  | replaced valid holds => exact holds.upsert_eq valid newId

theorem exists_upsertOutcome (collection : Collection Element) (spec : Spec) (newId : String) :
    ∃ result, UpsertOutcome collection spec newId result := by
  cases valid : Specification.validate spec with
  | error _ => exact ⟨_, .invalid valid⟩
  | ok _ =>
      by_cases many : 1 < collection.countKey (Specification.key spec)
      · exact ⟨_, .repeated valid many⟩
      · obtain ⟨upserted, planned⟩ := exists_upsert newId valid (Nat.le_of_not_lt many)
        rcases upsert_cases planned with ⟨_, _, _, holds, -⟩ | ⟨absent, -⟩
        · exact ⟨_, .replaced valid holds⟩
        · exact ⟨_, .created valid absent⟩

/-- The cases leave nothing out and exclude one another. -/
theorem upsert_eq_iff_outcome :
    collection.upsert spec newId = result ↔ UpsertOutcome collection spec newId result := by
  refine ⟨?_, UpsertOutcome.upsert_eq⟩
  rintro rfl
  obtain ⟨result, outcome⟩ := exists_upsertOutcome collection spec newId
  rw [outcome.upsert_eq]
  exact outcome

/-- The items with another key than that of the definition are there as before, in their order. -/
theorem filter_others_upsert [Specification.Keyed Spec]
    (planned : collection.upsert spec newId = .ok upserted) :
    (upserted.collection.filter fun other => Item.key other ≠ Specification.key spec) =
      collection.filter fun other => Item.key other ≠ Specification.key spec := by
  rcases upsert_cases planned with ⟨before, item, after, holds, rfl⟩ | ⟨-, rfl⟩
  · simp [filter, holds.items_eq, holds.key_eq, Specification.Keyed.key_build]
  · simp [filter, Specification.Keyed.key_build]

section Again

variable [Specification.Keyed Spec] [Specification.Stable Spec]

/-- After an upsert one item has the key: the one that the definition builds with the reported id,
which is its own. -/
theorem holdsOnly_upsert (planned : collection.upsert spec newId = .ok upserted) :
    let built : Element := Specification.build spec upserted.itemId
    Item.id built = upserted.itemId ∧
      ∃ before after,
        upserted.collection.HoldsOnly (Specification.key spec) before built after := by
  rcases upsert_cases planned with ⟨before, item, after, holds, rfl⟩ | ⟨absent, rfl⟩
  · refine ⟨Specification.Stable.id_build spec item holds.key_eq, before, after, rfl, ?_, ?_⟩
    · exact Specification.Keyed.key_build spec _
    · exact holds.others
  · -- the new item may have another id than the offered one, and is built with that one again
    simp only [Specification.Stable.build_id_build, true_and]
    refine ⟨collection.items, [], rfl, Specification.Keyed.key_build spec _, ?_⟩
    simpa using absent

/-- A second upsert of the same definition finds nothing left to do. -/
theorem upsert_again (planned : collection.upsert spec newId = .ok upserted) (otherId : String) :
    upserted.collection.upsert spec otherId =
      .ok { upserted with wasCreated := false } := by
  have valid : Specification.validate spec = .ok () := by
    simp only [upsert, bind_eq_ok] at planned
    obtain ⟨_, valid, -⟩ := planned
    exact valid
  obtain ⟨ownId, before, after, holds⟩ := holdsOnly_upsert planned
  rw [holds.upsert_eq valid otherId, ownId, ← holds.items_eq]

end Again

/-- What holds of every upsert of one kind of item. -/
structure UpsertLaws (Spec : Type) {Element : Type} [Item Element] [Specification Spec Element] :
    Prop where
  /-- An upsert is its specification: the fault that comes first, or the changed collection. -/
  outcome (collection : Collection Element) (spec : Spec) (newId : String)
    (result : Except PlanError (Upserted Element)) :
    collection.upsert spec newId = result ↔ UpsertOutcome collection spec newId result
  /-- All other items are there as before, in their order. -/
  others {collection : Collection Element} {spec : Spec} {newId : String}
    {upserted : Upserted Element} (planned : collection.upsert spec newId = .ok upserted) :
    (upserted.collection.filter fun other => Item.key other ≠ Specification.key spec) =
      collection.filter fun other => Item.key other ≠ Specification.key spec
  /-- The one item that has the key now is the definition's own, and has the reported id. -/
  keyed {collection : Collection Element} {spec : Spec} {newId : String}
    {upserted : Upserted Element} (planned : collection.upsert spec newId = .ok upserted) :
    let built : Element := Specification.build spec upserted.itemId
    Item.id built = upserted.itemId ∧
      ∃ before after, upserted.collection.HoldsOnly (Specification.key spec) before built after
  /-- Keys that are distinct stay distinct. -/
  distinct {collection : Collection Element} {spec : Spec} {newId : String}
    {upserted : Upserted Element} (kept : collection.Distinct)
    (planned : collection.upsert spec newId = .ok upserted) : upserted.collection.Distinct
  /-- The same definition again, with any new id, leaves the collection and the id as they are. -/
  again {collection : Collection Element} {spec : Spec} {newId : String}
    {upserted : Upserted Element} (planned : collection.upsert spec newId = .ok upserted)
    (otherId : String) :
    upserted.collection.upsert spec otherId = .ok { upserted with wasCreated := false }

theorem upsertLaws [Specification.Keyed Spec] [Specification.Stable Spec] : UpsertLaws Spec where
  outcome _ _ _ _ := upsert_eq_iff_outcome
  others := filter_others_upsert
  keyed := holdsOnly_upsert
  distinct := Distinct.upsert
  again := upsert_again

/-- The upserts of every kind of item are what their specification says. -/
theorem upsert_meets_specification :
    UpsertLaws EntrySpec ∧ UpsertLaws ScopeSpec ∧ UpsertLaws UriSpec ∧
      UpsertLaws CredentialSpec :=
  ⟨upsertLaws, upsertLaws, upsertLaws, upsertLaws⟩

end Collection

end Provision
