import Mathlib.Data.List.Duplicate
import Provision.Proofs.Planning

/-!
# Keys that several items share

There are two ways to find out that items share a key.  A lookup counts the items with the
key that it looks for; a check of the whole collection goes from item to item and counts, for
each one, how many of the items from there on have its key.  An item that no earlier one
shares its key with has all holders of the key from there on, so that the check counts what
the lookup would count, and the key that it reports is the first of those that are shared.
-/

namespace Provision

/-- A key that occurs repeatedly, and for the first time before every other such key does. -/
structure FirstRepeated (keys : List String) (key : String) : Prop where
  repeated : List.Duplicate key keys
  first : ∀ other, List.Duplicate other keys → keys.idxOf key ≤ keys.idxOf other

section Keys

variable {keys : List String} {key leading : String}

theorem firstRepeated_cons_of_mem (again : leading ∈ keys) :
    FirstRepeated (leading :: keys) key ↔ key = leading := by
  constructor
  · intro isFirst
    have atFront := isFirst.first leading again.duplicate_cons_self
    by_contra differs
    simp [Ne.symm differs] at atFront
  · rintro rfl
    exact ⟨again.duplicate_cons_self, by simp⟩

theorem duplicate_cons_of_not_mem (once : leading ∉ keys) :
    List.Duplicate key (leading :: keys) ↔ List.Duplicate key keys := by
  rw [List.duplicate_cons_iff, or_iff_right]
  rintro ⟨rfl, again⟩
  exact once again

theorem firstRepeated_cons_of_not_mem (once : leading ∉ keys) :
    FirstRepeated (leading :: keys) key ↔ FirstRepeated keys key := by
  have idxOf_eq {other : String} (repeated : List.Duplicate other keys) :
      (leading :: keys).idxOf other = keys.idxOf other + 1 := by
    apply List.idxOf_cons_ne
    rintro rfl
    exact once repeated.mem
  constructor
  · rintro ⟨repeated, first⟩
    rw [duplicate_cons_of_not_mem once] at repeated
    refine ⟨repeated, ?_⟩
    intro other otherRepeated
    have earlier := first other ((duplicate_cons_of_not_mem once).mpr otherRepeated)
    rw [idxOf_eq repeated, idxOf_eq otherRepeated] at earlier
    omega
  · rintro ⟨repeated, first⟩
    refine ⟨(duplicate_cons_of_not_mem once).mpr repeated, ?_⟩
    intro other otherRepeated
    rw [duplicate_cons_of_not_mem once] at otherRepeated
    have earlier := first other otherRepeated
    rw [idxOf_eq repeated, idxOf_eq otherRepeated]
    omega

end Keys

namespace Collection

variable {Element : Type} [Item Element] {collection : Collection Element} {items : List Element}
  {key : String} {error : PlanError}

theorem countP_key (items : List Element) (key : String) :
    items.countP (fun item => Item.key item = key) = (items.map Item.key).count key := by
  rw [List.count, List.countP_map]
  rfl

theorem indexOfKey?_eq_error_iff : collection.indexOfKey? key = .error error ↔
    List.Duplicate key (collection.items.map Item.key) ∧
      error = .repeatedKey key ((collection.items.map Item.key).count key) := by
  rw [indexOfKey?, countKey, countP_key, List.duplicate_iff_two_le_count]
  by_cases many : 1 < (collection.items.map Item.key).count key
  · simp [many, Nat.succ_le_iff, eq_comm]
  · simp [many, Nat.succ_le_iff]

theorem exists_indexOfKey?_iff : (∃ found, collection.indexOfKey? key = .ok found) ↔
    ¬List.Duplicate key (collection.items.map Item.key) := by
  rw [indexOfKey?, countKey, countP_key, List.duplicate_iff_two_le_count]
  by_cases many : 1 < (collection.items.map Item.key).count key
  · simp [many, Nat.succ_le_iff]
  · simp [many, Nat.succ_le_iff]

/-- The check stops at an item whose key occurs again. -/
theorem distinctKeys_cons (item : Element) (rest : List Element) :
    distinctKeys (item :: rest) =
      if Item.key item ∈ rest.map Item.key then
        .error (.repeatedKey (Item.key item) (((item :: rest).map Item.key).count (Item.key item)))
      else distinctKeys rest := by
  have many_iff : 1 < ((item :: rest).map Item.key).count (Item.key item) ↔
      Item.key item ∈ rest.map Item.key := by
    rw [List.map_cons, List.count_cons_self, ← List.count_pos_iff]
    omega
  simp only [distinctKeys, countP_key, many_iff]

theorem distinctKeys_eq_ok_iff : distinctKeys items = .ok () ↔ (items.map Item.key).Nodup := by
  induction items with
  | nil => simp [distinctKeys]
  | cons item rest ih =>
      rw [distinctKeys_cons, List.map_cons, List.nodup_cons]
      by_cases again : Item.key item ∈ rest.map Item.key
      · simp only [again, if_true, not_true, false_and, reduceCtorEq]
      · simp only [again, if_false, not_false_eq_true, true_and, ih]

/-- The check reports the first key that is shared, with the number of all its holders. -/
theorem distinctKeys_eq_error_iff : distinctKeys items = .error error ↔
    ∃ key, FirstRepeated (items.map Item.key) key ∧
      error = .repeatedKey key ((items.map Item.key).count key) := by
  induction items with
  | nil =>
      simp only [distinctKeys, reduceCtorEq, false_iff, List.map_nil]
      rintro ⟨key, isFirst, -⟩
      exact List.not_duplicate_nil key isFirst.repeated
  | cons item rest ih =>
      rw [distinctKeys_cons]
      by_cases again : Item.key item ∈ rest.map Item.key
      · simp only [again, if_true, List.map_cons, firstRepeated_cons_of_mem again,
          exists_eq_left, Except.error.injEq]
        exact eq_comm
      · simp only [again, if_false, List.map_cons, firstRepeated_cons_of_not_mem again, ih]
        apply exists_congr
        intro key
        apply and_congr_right
        intro isFirst
        -- the key that is reported below is not that of the item, which adds nothing to the count
        have apart : Item.key item ≠ key := by
          rintro rfl
          exact again isFirst.repeated.mem
        rw [List.count_cons_of_ne apart]

/-- What the check of a collection and the lookups in it tell are the same facts. -/
structure KeyChecksAgree (collection : Collection Element) : Prop where
  succeeds : collection.ensureDistinctKeys = .ok () ↔
    ∀ key, ∃ found, collection.indexOfKey? key = .ok found
  reports : ∀ error, collection.ensureDistinctKeys = .error error ↔
    ∃ key, FirstRepeated (collection.items.map Item.key) key ∧
      error = .repeatedKey key ((collection.items.map Item.key).count key) ∧
      collection.indexOfKey? key = .error error
  finds : ∀ key index, collection.indexOfKey? key = .ok (some index) →
    ∃ item, collection.items[index]? = some item ∧ Item.key item = key ∧
      ∀ place other, collection.items[place]? = some other → Item.key other = key →
        place = index

theorem HoldsOnly.eq_length_of_getElem? {before after : List Element} {item other : Element}
    {place : Nat} (holds : collection.HoldsOnly key before item after)
    (stands : collection.items[place]? = some other) (otherKey : Item.key other = key) :
    place = before.length := by
  obtain ⟨inside, rfl⟩ := List.getElem?_eq_some_iff.mp stands
  have items_eq : collection.items = collection.items.take place ++
      collection.items[place] :: collection.items.drop (place + 1) := by simp
  obtain ⟨rfl, -, -⟩ := holds.split_eq items_eq otherKey
  simp
  omega

/-- The check succeeds exactly if no lookup is refused.  It reports what the lookup of the first
shared key reports, and a lookup that is not refused finds the only item with its key. -/
theorem keyChecks_agree (collection : Collection Element) : collection.KeyChecksAgree where
  succeeds := by
    rw [ensureDistinctKeys, distinctKeys_eq_ok_iff, List.nodup_iff_forall_not_duplicate]
    simp only [exists_indexOfKey?_iff]
  reports := by
    intro error
    rw [ensureDistinctKeys, distinctKeys_eq_error_iff]
    simp only [indexOfKey?_eq_error_iff]
    constructor
    · rintro ⟨key, isFirst, rfl⟩
      exact ⟨key, isFirst, rfl, isFirst.repeated, rfl⟩
    · rintro ⟨key, isFirst, rfl, -⟩
      exact ⟨key, isFirst, rfl⟩
  finds := by
    intro key index looked
    rcases indexOfKey?_cases looked with ⟨isNone, -⟩ | ⟨before, item, after, holds, found⟩
    · cases isNone
    · obtain rfl := Option.some.inj found
      refine ⟨item, by simp [holds.items_eq], holds.key_eq, ?_⟩
      intro place other stands otherKey
      exact holds.eq_length_of_getElem? stands otherKey

example : (⟨[⟨"a"⟩, ⟨"b"⟩, ⟨"b"⟩, ⟨"a"⟩]⟩ : Collection IdentifierUri).ensureDistinctKeys =
    .error (.repeatedKey "a" 2) := rfl

end Collection

end Provision
