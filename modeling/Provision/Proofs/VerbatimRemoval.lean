import Provision.Item.Entry
import Provision.Proofs.Planning

/-!
# Removing the item with a key

A removal by key is meant to take the only item that has the key, character by
character, and no other.  The key is trimmed, though, and the item that is found
by it is looked up again by its own id, trimmed as well, where the first item
with that id is taken.  So an item is removed by its key if the key is neither
blank nor padded and the item can be addressed by its id too.
-/

namespace Provision.Collection

variable {Element : Type} [Item Element] {collection : Collection Element} {key : String}
  {disableFirst : Bool}

/-- A removal by key is planned for the only item with exactly that key, whenever there is one, and
leaves all others. -/
structure RemovesVerbatim (collection : Collection Element) (key : String) (disableFirst : Bool) :
    Prop where
  targets : ∀ plan, collection.removeByKey key disableFirst = .ok plan →
    ∃ before item after, collection.HoldsOnly key before item after ∧
      plan.targetKey = key ∧ plan.targetId = Item.id item ∧
      plan.steps.getLast?.map Step.collection = some ⟨before ++ after⟩
  planned : ∀ before item after, collection.HoldsOnly key before item after →
    ∃ plan, collection.removeByKey key disableFirst = .ok plan

/-- The only item with a key is the first one with its id; the key is not empty, and the id is
neither empty nor padded. -/
def Addressable (collection : Collection Element) (key : String) : Prop :=
  ∀ before item after, collection.HoldsOnly key before item after →
    key ≠ "" ∧ Item.id item ≠ "" ∧ Text.trim (Item.id item) = Item.id item ∧
      ∀ other ∈ before, Item.id other ≠ Item.id item

-- an item that is not the first one with its id cannot be addressed: another one is removed
example :
    let entries : Collection Entry := ⟨[⟨"1", "a", none, []⟩, ⟨"1", "b", none, []⟩]⟩
    ((entries.removeByKey "b" false).map Removal.targetKey) = .ok "a" := rfl

/-- An item that can be addressed by its key is removed by its key. -/
theorem Addressable.removesVerbatim (unpadded : Text.trim key = key)
    (addressable : collection.Addressable key) : collection.RemovesVerbatim key disableFirst where
  targets plan planned := by
    rcases removeByKey_cases planned with
      ⟨found, ⟨before, after, holds⟩, otherBefore, target, otherAfter, items_eq, targetId, first,
        rfl⟩
    rw [unpadded] at holds
    rcases addressable before found after holds with ⟨-, -, idUnpadded, foundFirst⟩
    rw [idUnpadded] at targetId
    obtain rfl : target = found := by
      have byTarget := get?_split items_eq rfl first
      have byFound := get?_split holds.items_eq rfl foundFirst
      rw [targetId, byFound] at byTarget
      exact (Option.some.inj byTarget).symm
    rcases holds.split_eq items_eq holds.key_eq with ⟨rfl, -, rfl⟩
    refine ⟨before, target, after, holds, holds.key_eq, rfl, ?_⟩
    cases disableFirst <;> rfl
  planned before item after holds := by
    rcases addressable before item after holds with ⟨keyGiven, idGiven, idUnpadded, -⟩
    rw [← unpadded] at holds keyGiven
    exact exists_removal_of_holdsOnly holds keyGiven (idUnpadded.trans_ne idGiven) idUnpadded

/-- A blank key is refused.  A key that is not padded stands for the only item that has it, if a
removal is planned, and removes that item and no other if it can be addressed. -/
theorem removeByKey_verbatim (collection : Collection Element) (key : String)
    (disableFirst : Bool) :
    (Text.trim key = "" → collection.removeByKey key disableFirst = .error (.missing "key")) ∧
    (Text.trim key = key →
      (∀ plan, collection.removeByKey key disableFirst = .ok plan →
        ∃ before item after, collection.HoldsOnly key before item after) ∧
      (collection.Addressable key → collection.RemovesVerbatim key disableFirst)) := by
  constructor
  · intro blank
    simp [removeByKey, Argument.required_of_trim_eq blank, bind, Except.bind]
  · intro unpadded
    refine ⟨?_, Addressable.removesVerbatim unpadded⟩
    intro plan planned
    rcases removeByKey_cases planned with ⟨item, ⟨before, after, holds⟩, -⟩
    rw [unpadded] at holds
    exact ⟨before, item, after, holds⟩

/-- The second of two entries with ids of their own is removed by its key. -/
theorem removeByKey_verbatim_sample :
    let entries : Collection Entry := ⟨[⟨"1", "a", none, []⟩, ⟨"2", "b", none, []⟩]⟩
    entries.removeByKey " " true = .error (.missing "key") ∧
      entries.HoldsOnly "b" [⟨"1", "a", none, []⟩] ⟨"2", "b", none, []⟩ [] ∧
      entries.RemovesVerbatim "b" true := by
  intro entries
  have holds : entries.HoldsOnly "b" [⟨"1", "a", none, []⟩] ⟨"2", "b", none, []⟩ [] :=
    ⟨rfl, rfl, by simp [Item.key]⟩
  have addressable : entries.Addressable "b" := by
    intro before item after others
    rcases holds.split_eq others.items_eq others.key_eq with ⟨rfl, rfl, rfl⟩
    decide
  exact ⟨(removeByKey_verbatim entries " " true).1 (by decide), holds,
    ((removeByKey_verbatim entries "b" true).2 (by decide)).2 addressable⟩

/-- The only item with the empty key is not removed by it. -/
theorem removeByKey_refuses_empty_key :
    let entries : Collection Entry := ⟨[⟨"1", "", none, []⟩]⟩
    entries.HoldsOnly "" [] ⟨"1", "", none, []⟩ [] ∧
      entries.removeByKey "" false = .error (.missing "key") ∧
      ¬entries.RemovesVerbatim "" false := by
  intro entries
  have holds : entries.HoldsOnly "" [] ⟨"1", "", none, []⟩ [] := ⟨rfl, rfl, by simp⟩
  have refused : entries.removeByKey "" false = .error (.missing "key") := rfl
  refine ⟨holds, refused, ?_⟩
  intro removes
  rcases removes.planned _ _ _ holds with ⟨plan, planned⟩
  simp [refused] at planned

end Provision.Collection
