import Mathlib.Data.List.Basic
import Mathlib.Data.List.Nodup
import Provision.Proofs.Arguments
import Provision.Proofs.Lossless
import Provision.Removal
import Provision.Upsert

/-!
# What planning can come to

A lookup by key finds an item that no other one shares its key with, or none at
all.  So an upsert replaces one item where it stands or appends one with a new
key, and a removal shuts the gate of one item and leaves out that item.  Nothing
of this depends on the ids being distinct: the item that is removed is the first
one with the id of the item that was found.

Every collection of a plan has distinct keys if the planned one has, and its
items are lossless if those of the planned one are.
-/

namespace Provision

open Record (Lossless)

theorem bind_eq_ok {First Second : Type} {check : Except PlanError First}
    {next : First → Except PlanError Second} {result : Second} :
    (check >>= next) = .ok result ↔ ∃ first, check = .ok first ∧ next first = .ok result := by
  cases check with
  | ok first => simp [bind, Except.bind]
  | error error => simp [bind, Except.bind]

/-- An index that a search finds splits the list. -/
theorem exists_split_of_findIdx? {Element : Type} {test : Element → Bool} {items : List Element}
    {index : Nat} (found : items.findIdx? test = some index) :
    ∃ before item after, items = before ++ item :: after ∧ before.length = index ∧
      test item = true ∧ ∀ other ∈ before, test other = false := by
  induction items generalizing index with
  | nil => simp at found
  | cons first rest ih =>
      rw [List.findIdx?_cons] at found
      by_cases passes : test first = true
      · simp only [passes, if_true, Option.some.injEq] at found
        exact ⟨[], first, rest, rfl, by simp [found], passes, by simp⟩
      · simp only [passes, Bool.false_eq_true, if_false, Option.map_eq_some_iff] at found
        rcases found with ⟨position, foundBelow, rfl⟩
        rcases ih foundBelow with ⟨before, item, after, rfl, rfl, itemPasses, beforeFail⟩
        refine ⟨first :: before, item, after, rfl, by simp, itemPasses, ?_⟩
        intro other other_mem
        rcases List.mem_cons.mp other_mem with rfl | before_mem
        · simpa using passes
        · exact beforeFail other before_mem

/-- What tells the elements of a list apart tells one of them from the others. -/
theorem ne_of_mem_others {Element Value : Type} {read : Element → Value}
    {before after : List Element} {target other : Element}
    (distinct : ((before ++ target :: after).map read).Nodup)
    (other_mem : other ∈ before ++ after) : read other ≠ read target := by
  intro same
  have middle : ((target :: (before ++ after)).map read).Nodup :=
    (List.perm_middle.map read).nodup_iff.mp distinct
  have notThere : read target ∉ (before ++ after).map read := (List.nodup_cons.mp middle).1
  exact notThere (List.mem_map.mpr ⟨other, other_mem, same⟩)

theorem sublist_others {Element : Type} (before : List Element) (target : Element)
    (after : List Element) : (before ++ after).Sublist (before ++ target :: after) :=
  (List.sublist_cons_self target after).append_left before

/-- What holds of all elements of a list and of a new one holds when the new one takes a place. -/
theorem forall_mem_replaced {Element : Type} {property : Element → Prop}
    {before after : List Element} {target replacement : Element}
    (ofAll : ∀ element ∈ before ++ target :: after, property element)
    (ofNew : property replacement) :
    ∀ element ∈ before ++ replacement :: after, property element := by
  intro element element_mem
  rcases List.mem_append.mp element_mem with before_mem | rest_mem
  · exact ofAll element (List.mem_append_left _ before_mem)
  · rcases List.mem_cons.mp rest_mem with rfl | after_mem
    · exact ofNew
    · exact ofAll element (by simp [after_mem])

/-- A kind of item whose gate is moved without a change of its id or its key. -/
class Item.Steady (Element : Type) [Item Element] : Prop where
  id_setEnabled (open? : Bool) (item : Element) :
    Item.id (Item.setEnabled open? item) = Item.id item
  key_setEnabled (open? : Bool) (item : Element) :
    Item.key (Item.setEnabled open? item) = Item.key item

instance : Item.Steady Scope where
  id_setEnabled _ _ := rfl
  key_setEnabled _ _ := rfl

instance : Item.Steady IdentifierUri where
  id_setEnabled _ _ := rfl
  key_setEnabled _ _ := rfl

namespace Collection

variable {Element Spec : Type} [Item Element] [Specification Spec Element]
  {collection : Collection Element} {key : String}

/-- No two items share their key. -/
def Distinct (collection : Collection Element) : Prop :=
  (collection.items.map Item.key).Nodup

/-- The collection holds an item with a key, and no other item has it. -/
structure HoldsOnly (collection : Collection Element) (key : String) (before : List Element)
    (item : Element) (after : List Element) : Prop where
  items_eq : collection.items = before ++ item :: after
  key_eq : Item.key item = key
  others : ∀ other ∈ before ++ after, Item.key other ≠ key

theorem HoldsOnly.eq_of_mem {before after : List Element} {item other : Element}
    (holds : collection.HoldsOnly key before item after) (other_mem : other ∈ collection.items)
    (otherKey : Item.key other = key) : other = item := by
  rw [holds.items_eq, List.mem_append, List.mem_cons] at other_mem
  rcases other_mem with before_mem | rfl | after_mem
  · exact absurd otherKey (holds.others other (List.mem_append_left _ before_mem))
  · rfl
  · exact absurd otherKey (holds.others other (List.mem_append_right _ after_mem))

/-- Where the keys are distinct every item has its key for itself. -/
theorem HoldsOnly.of_distinct {before after : List Element} {item : Element}
    (distinct : (⟨before ++ item :: after⟩ : Collection Element).Distinct) :
    (⟨before ++ item :: after⟩ : Collection Element).HoldsOnly (Item.key item) before item after :=
  ⟨rfl, rfl, fun _ => ne_of_mem_others distinct⟩

/-- The collection can be split in one way only at an item with the key. -/
theorem HoldsOnly.split_eq {before after otherBefore otherAfter : List Element}
    {item other : Element} (holds : collection.HoldsOnly key before item after)
    (items_eq : collection.items = otherBefore ++ other :: otherAfter)
    (otherKey : Item.key other = key) :
    before = otherBefore ∧ item = other ∧ after = otherAfter := by
  obtain rfl : other = item := holds.eq_of_mem (by simp [items_eq]) otherKey
  have notBefore : other ∉ before := fun other_mem =>
    holds.others other (List.mem_append_left _ other_mem) otherKey
  have notAfter : other ∉ after := fun other_mem =>
    holds.others other (List.mem_append_right _ other_mem) otherKey
  exact (List.append_cons_inj_of_notMem notBefore notAfter).mp (holds.items_eq.symm.trans items_eq)

/-- A lookup by key that is not refused finds the only item with the key, or there is none. -/
theorem indexOfKey?_cases {found : Option Nat} (looked : collection.indexOfKey? key = .ok found) :
    (found = none ∧ ∀ item ∈ collection.items, Item.key item ≠ key) ∨
      ∃ before item after, collection.HoldsOnly key before item after ∧
        found = some before.length := by
  by_cases many : 1 < collection.countKey key
  · simp [indexOfKey?, many] at looked
  · simp only [indexOfKey?, many, if_false, Except.ok.injEq] at looked
    cases found with
    | none =>
        left
        exact ⟨rfl, by simpa [List.findIdx?_eq_none_iff] using looked⟩
    | some index =>
        right
        rcases exists_split_of_findIdx? looked with
          ⟨before, item, after, items_eq, rfl, itemKey, beforeOther⟩
        simp only [decide_eq_true_eq, decide_eq_false_iff_not] at itemKey beforeOther
        have afterOther : ∀ other ∈ after, Item.key other ≠ key := by
          have counted : collection.countKey key =
              before.countP (fun item => Item.key item = key) +
                (after.countP (fun item => Item.key item = key) + 1) := by
            simp [countKey, items_eq, itemKey]
          have noneAfter : after.countP (fun item => Item.key item = key) = 0 := by omega
          simpa [List.countP_eq_zero] using noneAfter
        refine ⟨before, item, after, ⟨items_eq, itemKey, ?_⟩, rfl⟩
        intro other other_mem
        rcases List.mem_append.mp other_mem with before_mem | after_mem
        · exact beforeOther other before_mem
        · exact afterOther other after_mem

theorem indexOfKey?_of_absent (absent : ∀ item ∈ collection.items, Item.key item ≠ key) :
    collection.indexOfKey? key = .ok none := by
  have noneThere : collection.countKey key = 0 := by
    simpa [countKey, List.countP_eq_zero] using absent
  have notFound : collection.items.findIdx? (fun item => Item.key item = key) = none := by
    simpa [List.findIdx?_eq_none_iff] using absent
  simp [indexOfKey?, noneThere, notFound]

theorem HoldsOnly.countKey_eq_one {before after : List Element} {item : Element}
    (holds : collection.HoldsOnly key before item after) : collection.countKey key = 1 := by
  have noneElsewhere : (before ++ after).countP (fun item => Item.key item = key) = 0 := by
    rw [List.countP_eq_zero]
    intro other other_mem
    simpa using holds.others other other_mem
  simp only [List.countP_append] at noneElsewhere
  simp only [countKey, holds.items_eq, List.countP_append, List.countP_cons, holds.key_eq,
    decide_true, if_true]
  omega

theorem HoldsOnly.indexOfKey?_eq {before after : List Element} {item : Element}
    (holds : collection.HoldsOnly key before item after) :
    collection.indexOfKey? key = .ok (some before.length) := by
  have single : ¬1 < collection.countKey key := by simp [holds.countKey_eq_one]
  cases looked : collection.indexOfKey? key with
  | error _ => simp [indexOfKey?, single] at looked
  | ok found =>
      rcases indexOfKey?_cases looked with ⟨-, absent⟩ | ⟨_, other, _, otherHolds, rfl⟩
      · exact absurd holds.key_eq (absent item (by simp [holds.items_eq]))
      · obtain ⟨rfl, -, -⟩ := holds.split_eq otherHolds.items_eq otherHolds.key_eq
        rfl

/-- An upsert replaces the only item with the key, which keeps its id, or appends an item with a
new key. -/
theorem upsert_cases {spec : Spec} {newId : String} {upserted : Upserted Element}
    (planned : collection.upsert spec newId = .ok upserted) :
    (∃ before item after,
      collection.HoldsOnly (Specification.key spec) before item after ∧
        upserted = ⟨⟨before ++ Specification.build spec (Item.id item) :: after⟩, Item.id item,
          false⟩) ∨
      ((∀ item ∈ collection.items, Item.key item ≠ Specification.key spec) ∧
        upserted = ⟨⟨collection.items ++ [Specification.build spec newId]⟩,
          Item.id (Specification.build spec newId : Element), true⟩) := by
  simp only [upsert, bind_eq_ok] at planned
  rcases planned with ⟨_, _, found, looked, chosen⟩
  rcases indexOfKey?_cases looked with ⟨rfl, absent⟩ | ⟨before, item, after, holds, rfl⟩
  · right
    refine ⟨absent, ?_⟩
    simpa [pure, Except.pure, eq_comm] using chosen
  · left
    refine ⟨before, item, after, holds, ?_⟩
    simpa [pure, Except.pure, holds.items_eq, eq_comm] using chosen

/-- A valid definition is planned for, unless several items share its key. -/
theorem exists_upsert {spec : Spec} (newId : String) (valid : Specification.validate spec = .ok ())
    (single : collection.countKey (Specification.key spec) ≤ 1) :
    ∃ upserted, collection.upsert spec newId = .ok upserted := by
  have few : ¬1 < collection.countKey (Specification.key spec) := by omega
  cases found : collection.items.findIdx? (fun item => Item.key item = Specification.key spec) <;>
    simp [upsert, valid, indexOfKey?, few, found, bind, Except.bind, pure, Except.pure]

theorem upsert_eq_of_absent {spec : Spec}
    (absent : ∀ item ∈ collection.items, Item.key item ≠ Specification.key spec)
    (valid : Specification.validate spec = .ok ()) (newId : String) :
    collection.upsert spec newId = .ok ⟨⟨collection.items ++ [Specification.build spec newId]⟩,
      Item.id (Specification.build spec newId : Element), true⟩ := by
  simp [upsert, valid, indexOfKey?_of_absent absent, bind, Except.bind, pure, Except.pure]

theorem HoldsOnly.upsert_eq {before after : List Element} {item : Element} {spec : Spec}
    (holds : collection.HoldsOnly (Specification.key spec) before item after)
    (valid : Specification.validate spec = .ok ()) (newId : String) :
    collection.upsert spec newId =
      .ok ⟨⟨before ++ Specification.build spec (Item.id item) :: after⟩, Item.id item, false⟩ := by
  simp [upsert, valid, holds.indexOfKey?_eq, holds.items_eq, bind, Except.bind, pure, Except.pure]

/-- Where the keys are distinct the item with the key is replaced. -/
theorem Distinct.upsert_eq {before after : List Element} {item : Element} {spec : Spec}
    (distinct : (⟨before ++ item :: after⟩ : Collection Element).Distinct)
    (hasKey : Item.key item = Specification.key spec)
    (valid : Specification.validate spec = .ok ()) (newId : String) :
    (⟨before ++ item :: after⟩ : Collection Element).upsert spec newId =
      .ok ⟨⟨before ++ Specification.build spec (Item.id item) :: after⟩, Item.id item, false⟩ :=
  (hasKey ▸ HoldsOnly.of_distinct distinct).upsert_eq valid newId

/-- Whether an upsert is planned, and whether it changes anything, does not depend on the id that a
new item would get. -/
theorem exists_upsert_with_id {spec : Spec} {newId : String} {upserted : Upserted Element}
    (planned : collection.upsert spec newId = .ok upserted) (otherId : String) :
    ∃ other, collection.upsert spec otherId = .ok other ∧
      (other.collection = collection ↔ upserted.collection = collection) := by
  have grown (item : Element) :
      (⟨collection.items ++ [item]⟩ : Collection Element) ≠ collection := by
    rcases collection with ⟨items⟩
    simp
  simp only [upsert, bind_eq_ok] at planned ⊢
  rcases planned with ⟨_, valid, found, looked, chosen⟩
  rcases indexOfKey?_cases looked with ⟨rfl, -⟩ | ⟨before, item, after, holds, rfl⟩
  · refine ⟨_, ⟨_, valid, none, looked, rfl⟩, ?_⟩
    obtain rfl := Except.ok.inj chosen
    simp [grown]
  · refine ⟨_, ⟨_, valid, some before.length, looked, rfl⟩, ?_⟩
    obtain rfl := Except.ok.inj chosen
    simp [holds.items_eq]

/-- The item that has a key for itself is the one that a search by the key finds. -/
theorem HoldsOnly.find?_eq {before after : List Element} {item : Element}
    (holds : collection.HoldsOnly key before item after) :
    (collection.items.find? fun item => Item.key item = key) = some item := by
  have noneBefore : before.find? (fun item => Item.key item = key) = none := by
    rw [List.find?_eq_none]
    intro other other_mem
    simpa using holds.others other (List.mem_append_left _ other_mem)
  simp [holds.items_eq, List.find?_append, noneBefore, holds.key_eq]

theorem itemWithKey_cases {item : Element} (found : collection.itemWithKey key = .ok item) :
    ∃ before after, collection.HoldsOnly key before item after := by
  simp only [itemWithKey, findKey?, bind_eq_ok] at found
  rcases found with ⟨candidate, looked, chosen⟩
  cases indexed : collection.indexOfKey? key with
  | error error => simp [indexed, Except.map] at looked
  | ok index =>
      simp only [indexed, Except.map, Except.ok.injEq] at looked
      rcases indexOfKey?_cases indexed with ⟨rfl, _⟩ | ⟨before, other, after, holds, rfl⟩
      · simp [← looked, throw, throwThe, MonadExceptOf.throw] at chosen
      · have same : other = item := by
          simpa [← looked, holds.items_eq, pure, Except.pure] using chosen
        exact ⟨before, after, same ▸ holds⟩

end Collection

namespace Removal

variable {Element : Type}

theorem map_snd_positioned (plan : Removal Element) :
    plan.positioned.map Prod.snd = plan.steps := by
  simp [positioned, Function.comp_def]

variable [Item Element]

/-- The removal of an item that stands between others. -/
def ofSplit (before : List Element) (target : Element) (after : List Element)
    (disableFirst : Bool) : Removal Element where
  targetId := Item.id target
  targetKey := Item.key target
  initial := .present (Item.enabled target)
  steps :=
    let disabled : Step Element := ⟨.disable, ⟨before ++ Item.setEnabled false target :: after⟩⟩
    let omitted : Step Element := ⟨.leaveOut, ⟨before ++ after⟩⟩
    if disableFirst then [disabled, omitted] else [omitted]

/-- A step of a removal moves the gate of the target or leaves the target out. -/
theorem items_of_mem_steps_ofSplit {before after : List Element} {target : Element}
    {disableFirst : Bool} {step : Step Element}
    (step_mem : step ∈ (ofSplit before target after disableFirst).steps) :
    step.collection.items = before ++ Item.setEnabled false target :: after ∨
      step.collection.items = before ++ after := by
  cases disableFirst with
  | false =>
      right
      have only : step = ⟨.leaveOut, ⟨before ++ after⟩⟩ := by simpa [ofSplit] using step_mem
      rw [only]
  | true =>
      rcases List.mem_cons.mp step_mem with rfl | others_mem
      · exact Or.inl rfl
      · right
        have only : step = ⟨.leaveOut, ⟨before ++ after⟩⟩ := by simpa using others_mem
        rw [only]

end Removal

namespace Collection

section Removals

variable {Element : Type} [Item Element] {collection : Collection Element} {key : String}
  {disableFirst : Bool} {plan : Removal Element}

theorem get?_append {before rest : List Element} {id : String} :
    (⟨before ++ rest⟩ : Collection Element).get? id =
      ((⟨before⟩ : Collection Element).get? id).or ((⟨rest⟩ : Collection Element).get? id) :=
  List.find?_append

theorem get?_cons_self {rest : List Element} {item : Element} {id : String}
    (hasId : Item.id item = id) : (⟨item :: rest⟩ : Collection Element).get? id = some item := by
  simp [get?, hasId]

theorem get?_split {before after : List Element} {target : Element} {id : String}
    (items_eq : collection.items = before ++ target :: after) (targetId : Item.id target = id)
    (first : ∀ other ∈ before, Item.id other ≠ id) : collection.get? id = some target := by
  have noneBefore : (⟨before⟩ : Collection Element).get? id = none := by
    simpa [get?, List.find?_eq_none] using first
  rcases collection with ⟨items⟩
  obtain rfl : items = before ++ target :: after := items_eq
  simp [get?_append, noneBefore, get?_cons_self targetId]

/-- What is seen of an id is the state of the first item that has it. -/
theorem itemState_of_first {before after : List Element} {target : Element} {id : String}
    (items_eq : collection.items = before ++ target :: after) (targetId : Item.id target = id)
    (first : ∀ other ∈ before, Item.id other ≠ id) :
    ItemState.of collection id = .present (Item.enabled target) := by
  simp [ItemState.of, get?_split items_eq targetId first]

theorem indexOfId?_split {before after : List Element} {target : Element} {id : String}
    (items_eq : collection.items = before ++ target :: after) (targetId : Item.id target = id)
    (first : ∀ other ∈ before, Item.id other ≠ id) :
    collection.indexOfId? id = some before.length := by
  have noneBefore : before.findIdx? (fun item => Item.id item = id) = none := by
    simpa [List.findIdx?_eq_none_iff] using first
  simp [indexOfId?, items_eq, List.findIdx?_append, noneBefore, List.findIdx?_cons, targetId]

/-- The removal of an item that is the first one with its id is planned around it. -/
theorem remove_split {before after : List Element} {target : Element} {targetId : String}
    (given : Text.trim targetId ≠ "") (items_eq : collection.items = before ++ target :: after)
    (hasId : Item.id target = Text.trim targetId)
    (first : ∀ other ∈ before, Item.id other ≠ Text.trim targetId) :
    collection.remove targetId disableFirst =
      .ok (Removal.ofSplit before target after disableFirst) := by
  have found : collection.indexOfId? (Text.trim targetId) = some before.length :=
    indexOfId?_split items_eq hasId first
  have initial : ItemState.of collection (Text.trim targetId) = .present (Item.enabled target) :=
    itemState_of_first items_eq hasId first
  simp only [remove, Argument.required_of_trim_ne given, found, items_eq, initial, bind,
    Except.bind, List.getElem?_append_right (Nat.le_refl _), Nat.sub_self,
    List.getElem?_cons_zero, List.set_append_right _ _ (Nat.le_refl _), List.set_cons_zero,
    List.eraseIdx_append_of_length_le (Nat.le_refl _), List.eraseIdx_cons_zero, pure, Except.pure]
  simp [Removal.ofSplit, hasId]

/-- The removal by an id takes the first item that has it. -/
theorem remove_cases {targetId : String}
    (planned : collection.remove targetId disableFirst = .ok plan) :
    ∃ before target after, collection.items = before ++ target :: after ∧
      Item.id target = Text.trim targetId ∧ (∀ other ∈ before, Item.id other ≠ Item.id target) ∧
      plan = Removal.ofSplit before target after disableFirst := by
  have looked := planned
  simp only [remove, bind_eq_ok] at looked
  rcases looked with ⟨id, accepted, looked⟩
  rcases Argument.eq_trim_of_required accepted with ⟨rfl, given⟩
  cases found : collection.indexOfId? (Text.trim targetId) with
  | none => simp [found, throw, throwThe, MonadExceptOf.throw] at looked
  | some index =>
      rcases exists_split_of_findIdx? found with
        ⟨before, target, after, items_eq, rfl, hasId, beforeOther⟩
      simp only [decide_eq_true_eq, decide_eq_false_iff_not] at hasId beforeOther
      refine ⟨before, target, after, items_eq, hasId, hasId ▸ beforeOther, ?_⟩
      exact Except.ok.inj (planned.symm.trans (remove_split given items_eq hasId beforeOther))

/-- The removal by a key takes the first item with the id of the only item with the key. -/
theorem removeByKey_cases (planned : collection.removeByKey key disableFirst = .ok plan) :
    ∃ found, (∃ before after, collection.HoldsOnly (Text.trim key) before found after) ∧
      ∃ before target after, collection.items = before ++ target :: after ∧
        Item.id target = Text.trim (Item.id found) ∧
        (∀ other ∈ before, Item.id other ≠ Item.id target) ∧
        plan = Removal.ofSplit before target after disableFirst := by
  simp only [removeByKey, bind_eq_ok] at planned
  rcases planned with ⟨key, accepted, found, looked, planned⟩
  rcases Argument.eq_trim_of_required accepted with ⟨rfl, -⟩
  exact ⟨found, itemWithKey_cases looked, remove_cases planned⟩

/-- When the ids are distinct and not padded, the removal by a key takes the only item with the
key. -/
theorem removeByKey_of_distinct_ids (distinctIds : (collection.items.map Item.id).Nodup)
    (unpadded : ∀ item ∈ collection.items, Text.trim (Item.id item) = Item.id item)
    (planned : collection.removeByKey key disableFirst = .ok plan) :
    ∃ before target after, collection.HoldsOnly (Text.trim key) before target after ∧
      plan = Removal.ofSplit before target after disableFirst := by
  rcases removeByKey_cases planned with
    ⟨found, ⟨beforeFound, afterFound, holds⟩, before, target, after, items_eq, targetId, -, rfl⟩
  have found_mem : found ∈ collection.items := by simp [holds.items_eq]
  have target_mem : target ∈ collection.items := by simp [items_eq]
  obtain rfl : target = found :=
    List.inj_on_of_nodup_map distinctIds target_mem found_mem
      (targetId.trans (unpadded found found_mem))
  rcases holds.split_eq items_eq holds.key_eq with ⟨rfl, -, rfl⟩
  exact ⟨beforeFound, target, afterFound, holds, rfl⟩

theorem itemWithKey_of_holdsOnly {before after : List Element} {item : Element}
    (holds : collection.HoldsOnly key before item after) :
    collection.itemWithKey key = .ok item := by
  simp [itemWithKey, findKey?, holds.indexOfKey?_eq, holds.items_eq, Except.map, bind, Except.bind,
    pure, Except.pure]

/-- The removal of an item that has its key for itself is planned, unless its id is blank. -/
theorem exists_removal_of_holdsOnly {before after : List Element} {item : Element}
    (holds : collection.HoldsOnly (Text.trim key) before item after)
    (keyGiven : Text.trim key ≠ "") (idGiven : Text.trim (Item.id item) ≠ "")
    (unpadded : Text.trim (Item.id item) = Item.id item) :
    ∃ plan, collection.removeByKey key disableFirst = .ok plan := by
  cases found : collection.indexOfId? (Item.id item) with
  | none =>
      have item_mem : item ∈ collection.items := by simp [holds.items_eq]
      have noId := List.findIdx?_eq_none_iff.mp found item item_mem
      simp at noId
  | some index =>
      rcases exists_split_of_findIdx? found with ⟨_, target, _, items_eq, rfl, _, _⟩
      simp [removeByKey, Argument.required_of_trim_ne keyGiven, itemWithKey_of_holdsOnly holds,
        remove, Argument.required_of_trim_ne idGiven, unpadded, found, items_eq, bind, Except.bind,
        pure, Except.pure]

/-- When the ids are distinct and not padded, the removal of an item that has its key for itself is
planned around that item. -/
theorem removeByKey_of_holdsOnly {before after : List Element} {item : Element}
    (distinctIds : (collection.items.map Item.id).Nodup)
    (unpadded : ∀ item ∈ collection.items, Text.trim (Item.id item) = Item.id item)
    (holds : collection.HoldsOnly (Text.trim key) before item after)
    (keyGiven : Text.trim key ≠ "") (idGiven : Item.id item ≠ "") :
    collection.removeByKey key disableFirst =
      .ok (Removal.ofSplit before item after disableFirst) := by
  have idUnpadded : Text.trim (Item.id item) = Item.id item :=
    unpadded item (by simp [holds.items_eq])
  obtain ⟨plan, planned⟩ : ∃ plan, collection.removeByKey key disableFirst = .ok plan :=
    exists_removal_of_holdsOnly holds keyGiven (idUnpadded.trans_ne idGiven) idUnpadded
  rcases removeByKey_of_distinct_ids distinctIds unpadded planned with
    ⟨_, other, _, otherHolds, rfl⟩
  rcases holds.split_eq otherHolds.items_eq otherHolds.key_eq with ⟨rfl, rfl, rfl⟩
  exact planned

/-- The removal by a key that no item has is refused. -/
theorem removeByKey_of_absent (absent : ∀ item ∈ collection.items, Item.key item ≠ Text.trim key)
    (keyGiven : Text.trim key ≠ "") :
    collection.removeByKey key disableFirst =
      .error (.notFound ("item '" ++ Text.trim key ++ "'")) := by
  simp [removeByKey, Argument.required_of_trim_ne keyGiven, itemWithKey, findKey?,
    indexOfKey?_of_absent absent, Except.map, bind, Except.bind, throw, throwThe,
    MonadExceptOf.throw]

end Removals

section Kept

variable {Element Spec : Type} [Item Element] [Specification Spec Element]
  {collection : Collection Element} {key : String}

/-- An upsert keeps the keys distinct: a new item has a key of its own. -/
theorem Distinct.upsert [Specification.Keyed Spec] {spec : Spec} {newId : String}
    {upserted : Upserted Element} (distinct : collection.Distinct)
    (planned : collection.upsert spec newId = .ok upserted) : upserted.collection.Distinct := by
  rcases upsert_cases planned with ⟨before, item, after, holds, rfl⟩ | ⟨absent, rfl⟩
  · have sameKeys : (before ++ Specification.build spec (Item.id item) :: after).map Item.key =
        collection.items.map Item.key := by
      simp [holds.items_eq, holds.key_eq, Specification.Keyed.key_build]
    simpa only [Distinct, sameKeys] using distinct
  · have keys : (collection.items ++ [Specification.build spec newId]).map Item.key =
        (collection.items.map Item.key).concat (Specification.key spec) := by
      simp [Specification.Keyed.key_build]
    have newKey : Specification.key spec ∉ collection.items.map Item.key := by
      simpa using absent
    rw [Distinct, keys]
    exact List.Nodup.concat newKey distinct

theorem Distinct.removal [Item.Steady Element] {disableFirst : Bool} {plan : Removal Element}
    {step : Step Element} (distinct : collection.Distinct)
    (planned : collection.removeByKey key disableFirst = .ok plan) (step_mem : step ∈ plan.steps) :
    step.collection.Distinct := by
  rcases removeByKey_cases planned with ⟨_, _, before, target, after, items_eq, _, _, rfl⟩
  rw [Distinct, items_eq] at distinct
  rcases Removal.items_of_mem_steps_ofSplit step_mem with shut | leftOut
  · simpa [Distinct, shut, Item.Steady.key_setEnabled] using distinct
  · rw [Distinct, leftOut]
    exact distinct.sublist ((sublist_others before target after).map Item.key)

variable [Record Element]

/-- An upsert writes the items that are there and one that is built from a definition. -/
theorem lossless_upsert [Specification.Durable Spec] {spec : Spec} {newId : String}
    {upserted : Upserted Element} (lossless : ∀ item ∈ collection.items, Lossless item)
    (planned : collection.upsert spec newId = .ok upserted) :
    ∀ item ∈ upserted.collection.items, Lossless item := by
  rcases upsert_cases planned with ⟨before, replaced, after, holds, rfl⟩ | ⟨_, rfl⟩
  · rw [holds.items_eq] at lossless
    exact forall_mem_replaced lossless (Specification.Durable.lossless_build spec _)
  · intro item item_mem
    rcases List.mem_append.mp item_mem with old_mem | new_mem
    · exact lossless item old_mem
    · obtain rfl : item = Specification.build spec newId := by simpa using new_mem
      exact Specification.Durable.lossless_build spec newId

/-- A removal writes items that are there, the target also with its gate shut. -/
theorem lossless_removal [Item.Durable Element] {disableFirst : Bool} {plan : Removal Element}
    {step : Step Element} (lossless : ∀ item ∈ collection.items, Lossless item)
    (planned : collection.removeByKey key disableFirst = .ok plan) (step_mem : step ∈ plan.steps) :
    ∀ item ∈ step.collection.items, Lossless item := by
  rcases removeByKey_cases planned with ⟨_, _, before, target, after, items_eq, _, _, rfl⟩
  rw [items_eq] at lossless
  rcases Removal.items_of_mem_steps_ofSplit step_mem with shut | leftOut
  · rw [shut]
    exact forall_mem_replaced lossless
      (Item.Durable.lossless_setEnabled false (lossless target (by simp)))
  · rw [leftOut]
    intro item item_mem
    exact lossless item ((sublist_others before target after).subset item_mem)

end Kept

end Collection

end Provision
