import Provision.Proofs.PlannedUpserts

/-!
# Upserts in either order

An upsert looks at the items that have the key of its definition and at no others: whether
it is refused for them, which id it reports and whether it reports a creation depend on
these alone.  It leaves all other items as they are, and so an upsert of a definition with
another key finds what it would have found before.

What it makes of the collection can be said item by item.  Each item is rebuilt if it has
the key, and a new one is appended if there is none.  Rebuilding for one key and for
another can change places, since a rebuilt item keeps its key; what is appended cannot,
and that is the only trace that the order of two upserts leaves.
-/

namespace Provision.Collection

variable {Spec Element : Type} [Item Element] [Specification Spec Element]
  {collection : Collection Element} {spec first second : Spec} {key newId firstId secondId : String}
  {upserted : Upserted Element}

/-- The items that have a key. -/
def holders (collection : Collection Element) (key : String) : List Element :=
  collection.filter fun item => Item.key item = key

/-- An item as the definition that has its key builds it, or else as it is. -/
def rebuilt (spec : Spec) (item : Element) : Element :=
  if Item.key item = Specification.key spec then Specification.build spec (Item.id item) else item

/-- The item that is appended for a definition, unless one has the key. -/
def appended (spec : Spec) (newId : String) : List Element → List Element
  | [] => [Specification.build spec newId]
  | _ :: _ => []

/-- The id that is reported for a definition whose key certain items have. -/
def reportedId (spec : Spec) (newId : String) : List Element → String
  | [] => Item.id (Specification.build spec newId : Element)
  | item :: _ => Item.id item

theorem holders_eq_nil_iff :
    collection.holders key = [] ↔ ∀ item ∈ collection.items, Item.key item ≠ key := by
  simp [holders, filter, List.filter_eq_nil_iff]

theorem appended_eq_nil {item : Element} (item_mem : item ∈ collection.items) (newId : String)
    (hasKey : Item.key item = Specification.key spec) :
    appended spec newId (collection.holders (Specification.key spec)) = [] := by
  cases holders : collection.holders (Specification.key spec) with
  | nil => exact absurd hasKey (holders_eq_nil_iff.mp holders item item_mem)
  | cons => rfl

theorem length_holders : (collection.holders key).length = collection.countKey key := by
  rw [holders, filter, countKey, List.countP_eq_length_filter]

theorem HoldsOnly.holders_eq {before after : List Element} {item : Element}
    (holds : collection.HoldsOnly key before item after) : collection.holders key = [item] := by
  obtain ⟨othersBefore, othersAfter⟩ := List.forall_mem_append.mp holds.others
  have noneBefore : before.filter (fun item => Item.key item = key) = [] := by
    simpa [List.filter_eq_nil_iff] using othersBefore
  have noneAfter : after.filter (fun item => Item.key item = key) = [] := by
    simpa [List.filter_eq_nil_iff] using othersAfter
  simp [holders, filter, holds.items_eq, noneBefore, noneAfter, holds.key_eq]

theorem rebuilt_of_ne {item : Element} (differs : Item.key item ≠ Specification.key spec) :
    rebuilt spec item = item := if_neg differs

theorem map_rebuilt_of_forall_ne {items : List Element}
    (others : ∀ item ∈ items, Item.key item ≠ Specification.key spec) :
    items.map (rebuilt spec) = items := by
  have unchanged : items.map (rebuilt spec) = items.map id :=
    List.map_congr_left fun item item_mem => rebuilt_of_ne (others item item_mem)
  rw [unchanged, List.map_id]

theorem HoldsOnly.map_rebuilt {before after : List Element} {item : Element}
    (holds : collection.HoldsOnly (Specification.key spec) before item after) :
    collection.items.map (rebuilt spec) =
      before ++ Specification.build spec (Item.id item) :: after := by
  obtain ⟨othersBefore, othersAfter⟩ := List.forall_mem_append.mp holds.others
  simp [holds.items_eq, map_rebuilt_of_forall_ne othersBefore,
    map_rebuilt_of_forall_ne othersAfter, rebuilt, holds.key_eq]

/-- What an upsert comes to when it is not refused. -/
def settled (collection : Collection Element) (spec : Spec) (newId : String) :
    Upserted Element where
  collection := ⟨collection.items.map (rebuilt spec) ++
    appended spec newId (collection.holders (Specification.key spec))⟩
  itemId := reportedId spec newId (collection.holders (Specification.key spec))
  wasCreated := (collection.holders (Specification.key spec)).isEmpty

theorem eq_settled_of_upsert (planned : collection.upsert spec newId = .ok upserted) :
    upserted = collection.settled spec newId := by
  cases upsert_eq_iff_outcome.mp planned with
  | created valid absent =>
      simp [settled, holders_eq_nil_iff.mpr absent, map_rebuilt_of_forall_ne absent, appended,
        reportedId]
  | replaced valid holds =>
      simp [settled, holds.holders_eq, holds.map_rebuilt, appended, reportedId]

/-- An upsert is refused for the definition or for the items that have its key, and nothing else. -/
theorem upsert_eq_ok_iff : collection.upsert spec newId = .ok upserted ↔
    Specification.validate spec = .ok () ∧
      (collection.holders (Specification.key spec)).length ≤ 1 ∧
      upserted = collection.settled spec newId := by
  constructor
  · intro planned
    refine ⟨?_, ?_, eq_settled_of_upsert planned⟩
    · cases upsert_eq_iff_outcome.mp planned <;> assumption
    · cases upsert_eq_iff_outcome.mp planned with
      | created valid absent => simp [holders_eq_nil_iff.mpr absent]
      | replaced valid holds => simp [holds.holders_eq]
  · rintro ⟨valid, single, rfl⟩
    rw [length_holders] at single
    obtain ⟨upserted, planned⟩ := exists_upsert newId valid single
    rw [planned, eq_settled_of_upsert planned]

section TwoKeys

variable [Specification.Keyed Spec]

theorem key_rebuilt (spec : Spec) (item : Element) :
    Item.key (rebuilt spec item) = Item.key item := by
  by_cases same : Item.key item = Specification.key spec
  · rw [rebuilt, if_pos same, Specification.Keyed.key_build, same]
  · rw [rebuilt_of_ne same]

/-- Of two definitions with different keys none rebuilds what the other one does. -/
theorem rebuilt_comm (differ : Specification.key first ≠ Specification.key second)
    (item : Element) :
    rebuilt second (rebuilt first item) = rebuilt first (rebuilt second item) := by
  by_cases isFirst : Item.key item = Specification.key first
  · have notSecond : Item.key item ≠ Specification.key second := isFirst ▸ differ
    have stillNotSecond : Item.key (rebuilt first item) ≠ Specification.key second := by
      rwa [key_rebuilt]
    rw [rebuilt_of_ne notSecond, rebuilt_of_ne stillNotSecond]
  · have stillNotFirst : Item.key (rebuilt second item) ≠ Specification.key first := by
      rwa [key_rebuilt]
    rw [rebuilt_of_ne isFirst, rebuilt_of_ne stillNotFirst]

theorem key_of_mem_appended {items : List Element} {item : Element}
    (item_mem : item ∈ appended spec newId items) : Item.key item = Specification.key spec := by
  cases items with
  | nil =>
      obtain rfl : item = Specification.build spec newId := by simpa [appended] using item_mem
      exact Specification.Keyed.key_build spec newId
  | cons => simp [appended] at item_mem

/-- The items with another key are the same before and after an upsert. -/
theorem holders_settled (differs : key ≠ Specification.key spec) :
    (collection.settled spec newId).collection.holders key = collection.holders key := by
  have noneAppended : (appended spec newId (collection.holders (Specification.key spec))).filter
      (fun item => Item.key item = key) = [] := by
    rw [List.filter_eq_nil_iff]
    intro item item_mem
    simpa [key_of_mem_appended item_mem] using differs.symm
  have noneRebuilt : (collection.holders key).map (rebuilt spec) = collection.holders key := by
    apply map_rebuilt_of_forall_ne
    intro item item_mem
    obtain rfl : Item.key item = key := by simpa using List.of_mem_filter item_mem
    exact differs
  simp only [holders, filter] at noneAppended noneRebuilt ⊢
  simp only [settled, holders, filter, List.filter_append, noneAppended, List.append_nil,
    List.filter_map, Function.comp_def, key_rebuilt, noneRebuilt]

/-- Two upserts with different keys, as one pass over the items. -/
theorem items_settled_settled (collection : Collection Element) (firstId secondId : String)
    (differ : Specification.key first ≠ Specification.key second) :
    ((collection.settled first firstId).collection.settled second secondId).collection.items =
      collection.items.map (rebuilt second ∘ rebuilt first) ++
        (appended first firstId (collection.holders (Specification.key first)) ++
          appended second secondId (collection.holders (Specification.key second))) := by
  have firstAppended : (appended first firstId (collection.holders (Specification.key first))).map
      (rebuilt second) = appended first firstId (collection.holders (Specification.key first)) := by
    apply map_rebuilt_of_forall_ne
    intro item item_mem
    rwa [key_of_mem_appended item_mem]
  rw [settled, holders_settled differ.symm]
  simp only [settled, List.map_append, List.map_map, firstAppended, List.append_assoc]

/-- Two upserts with different keys succeed together if each of them would succeed alone. -/
theorem exists_upsert_upsert_iff (differ : Specification.key first ≠ Specification.key second) :
    (∃ alone after, collection.upsert first firstId = .ok alone ∧
      alone.collection.upsert second secondId = .ok after) ↔
    (Specification.validate first = .ok () ∧
      (collection.holders (Specification.key first)).length ≤ 1) ∧
    Specification.validate second = .ok () ∧
      (collection.holders (Specification.key second)).length ≤ 1 := by
  simp only [upsert_eq_ok_iff]
  constructor
  · rintro ⟨_, _, ⟨firstValid, firstSingle, rfl⟩, secondValid, secondSingle, -⟩
    rw [holders_settled differ.symm] at secondSingle
    exact ⟨⟨firstValid, firstSingle⟩, secondValid, secondSingle⟩
  · rintro ⟨⟨firstValid, firstSingle⟩, secondValid, secondSingle⟩
    refine ⟨_, _, ⟨firstValid, firstSingle, rfl⟩, secondValid, ?_, rfl⟩
    rwa [holders_settled differ.symm]

end TwoKeys

/-- Two definitions are upserted in both orders: each of them first, and each of them after the
other one. -/
structure InBothOrders (collection : Collection Element) (first second : Spec)
    (firstId secondId : String)
    (firstAlone secondAfter secondAlone firstAfter : Upserted Element) : Prop where
  first_eq : collection.upsert first firstId = .ok firstAlone
  thenSecond : firstAlone.collection.upsert second secondId = .ok secondAfter
  second_eq : collection.upsert second secondId = .ok secondAlone
  thenFirst : secondAlone.collection.upsert first firstId = .ok firstAfter

/-- The order of two upserts shows in nothing but the order of the items that they append. -/
structure OrderHardlyShows (collection : Collection Element) (first second : Spec)
    (firstId secondId : String)
    (firstAlone secondAfter secondAlone firstAfter : Upserted Element) : Prop where
  /-- Both orders lead to the same items. -/
  items : secondAfter.collection.items.Perm firstAfter.collection.items
  firstReport : firstAfter.itemId = firstAlone.itemId ∧
    firstAfter.wasCreated = firstAlone.wasCreated
  secondReport : secondAfter.itemId = secondAlone.itemId ∧
    secondAfter.wasCreated = secondAlone.wasCreated
  /-- If one of the keys was there before, the items stand in the same order too. -/
  oneThere : (∃ item ∈ collection.items, Item.key item = Specification.key first ∨
      Item.key item = Specification.key second) →
    secondAfter.collection = firstAfter.collection
  /-- If none of the keys was there, the two new items come last, in the order of the upserts. -/
  noneThere : (∀ item ∈ collection.items, Item.key item ≠ Specification.key first ∧
      Item.key item ≠ Specification.key second) →
    secondAfter.collection.items = collection.items ++
        [Specification.build first firstId, Specification.build second secondId] ∧
      firstAfter.collection.items = collection.items ++
        [Specification.build second secondId, Specification.build first firstId]

section TwoKeys

variable [Specification.Keyed Spec]
  {firstAlone secondAfter secondAlone firstAfter : Upserted Element}

theorem InBothOrders.orderHardlyShows
    (differ : Specification.key first ≠ Specification.key second)
    (both : collection.InBothOrders first second firstId secondId firstAlone secondAfter secondAlone
      firstAfter) :
    collection.OrderHardlyShows first second firstId secondId firstAlone secondAfter secondAlone
      firstAfter := by
  obtain ⟨first_eq, thenSecond, second_eq, thenFirst⟩ := both
  obtain rfl := eq_settled_of_upsert first_eq
  obtain rfl := eq_settled_of_upsert second_eq
  obtain rfl := eq_settled_of_upsert thenSecond
  obtain rfl := eq_settled_of_upsert thenFirst
  have secondLast := items_settled_settled collection firstId secondId differ
  have firstLast := items_settled_settled collection secondId firstId differ.symm
  have sameRebuilt : (rebuilt first ∘ rebuilt second : Element → Element) =
      rebuilt second ∘ rebuilt first := funext fun item => (rebuilt_comm differ item).symm
  rw [sameRebuilt] at firstLast
  have firstHolders : (collection.settled second secondId).collection.holders
      (Specification.key first) = collection.holders (Specification.key first) :=
    holders_settled differ
  have secondHolders : (collection.settled first firstId).collection.holders
      (Specification.key second) = collection.holders (Specification.key second) :=
    holders_settled differ.symm
  constructor
  · rw [secondLast, firstLast]
    exact List.perm_append_comm.append_left _
  · exact ⟨congrArg (reportedId first firstId) firstHolders, congrArg List.isEmpty firstHolders⟩
  · exact ⟨congrArg (reportedId second secondId) secondHolders,
      congrArg List.isEmpty secondHolders⟩
  · rintro ⟨item, item_mem, hasKey⟩
    have sameAppended : appended first firstId (collection.holders (Specification.key first)) ++
          appended second secondId (collection.holders (Specification.key second)) =
        appended second secondId (collection.holders (Specification.key second)) ++
          appended first firstId (collection.holders (Specification.key first)) := by
      rcases hasKey.imp (appended_eq_nil item_mem firstId) (appended_eq_nil item_mem secondId) with
        nothing | nothing <;> simp [nothing]
    rw [sameAppended] at secondLast
    exact congrArg Collection.mk (secondLast.trans firstLast.symm)
  · intro neither
    have noFirst := holders_eq_nil_iff.mpr fun item item_mem => (neither item item_mem).1
    have noSecond := holders_eq_nil_iff.mpr fun item item_mem => (neither item item_mem).2
    have kept : collection.items.map (rebuilt second ∘ rebuilt first) = collection.items := by
      rw [← List.map_map, map_rebuilt_of_forall_ne fun item item_mem => (neither item item_mem).1,
        map_rebuilt_of_forall_ne fun item item_mem => (neither item item_mem).2]
    rw [secondLast, firstLast, kept, noFirst, noSecond]
    exact ⟨rfl, rfl⟩

end TwoKeys

/-- What holds of every two upserts of one kind of item whose definitions have different keys. -/
structure UpsertsCommute (Spec : Type) {Element : Type} [Item Element]
    [Specification Spec Element] : Prop where
  /-- Both orders go through, or none does. -/
  succeed (collection : Collection Element) {first second : Spec} (firstId secondId : String)
    (differ : Specification.key first ≠ Specification.key second) :
    (∃ firstAlone secondAfter, collection.upsert first firstId = .ok firstAlone ∧
      firstAlone.collection.upsert second secondId = .ok secondAfter) ↔
    ∃ secondAlone firstAfter, collection.upsert second secondId = .ok secondAlone ∧
      secondAlone.collection.upsert first firstId = .ok firstAfter
  /-- Where both go through they come to the same, but for the order of two new items. -/
  agree {collection : Collection Element} {first second : Spec} {firstId secondId : String}
    {firstAlone secondAfter secondAlone firstAfter : Upserted Element}
    (differ : Specification.key first ≠ Specification.key second)
    (both : collection.InBothOrders first second firstId secondId firstAlone secondAfter secondAlone
      firstAfter) :
    collection.OrderHardlyShows first second firstId secondId firstAlone secondAfter secondAlone
      firstAfter

theorem upsertsCommute [Specification.Keyed Spec] : UpsertsCommute Spec where
  succeed _ _ _ _ _ differ := by
    rw [exists_upsert_upsert_iff differ, exists_upsert_upsert_iff differ.symm, and_comm]
  agree := InBothOrders.orderHardlyShows

/-- Upserts of definitions with different keys can change places, whatever kind of item they are
definitions of. -/
theorem upserts_commute :
    UpsertsCommute EntrySpec ∧ UpsertsCommute ScopeSpec ∧ UpsertsCommute UriSpec ∧
      UpsertsCommute CredentialSpec :=
  ⟨upsertsCommute, upsertsCommute, upsertsCommute, upsertsCommute⟩

end Provision.Collection
