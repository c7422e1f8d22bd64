import Mathlib.Tactic.ByContra
import Provision.Json.Record

/-!
# Members in order

The laws of named members: what `find?` sees after `insert`, `override` and
`without`, and that each of them keeps the order of the names.  A list of
members in order is rebuilt by inserting its members one after the other, so a
record that keeps unknown members apart can put them back.

A document is `Ordered` when the members of every object in it are in order, as
they are in every document that is read or built here.
-/

namespace Provision.Members

variable {Value : Type} {name other : String} {value kept : Value}
  {members changes : List (String × Value)}

@[simp]
theorem find?_insert_self : find? name (insert name value members) = some value := by
  induction members with
  | nil => simp [insert, find?]
  | cons member rest ih =>
      rcases member with ⟨first, held⟩
      by_cases same : name = first
      · simp [insert, find?, same]
      · by_cases before : name < first
        · simp [insert, find?, same, before]
        · simp [insert, find?, same, before, Ne.symm same, ih]

theorem find?_insert_of_ne (different : other ≠ name) :
    find? other (insert name value members) = find? other members := by
  induction members with
  | nil => simp [insert, find?, different.symm]
  | cons member rest ih =>
      rcases member with ⟨first, held⟩
      by_cases same : name = first
      · subst same
        simp [insert, find?, different.symm]
      · by_cases before : name < first
        · simp [insert, find?, same, before, different.symm]
        · simp [insert, find?, same, before, ih]

/-- Setting a member changes what is found under its own name and nothing else. -/
theorem find?_insert :
    find? other (insert name value members) =
      if other = name then some value else find? other members := by
  by_cases same : other = name
  · subst same
    simp
  · simp [same, find?_insert_of_ne same]

/-- Of two values that are set under one name the later one stays. -/
theorem insert_insert {later : Value} :
    insert name later (insert name value members) = insert name later members := by
  induction members with
  | nil => simp [insert]
  | cons member rest ih =>
      rcases member with ⟨first, held⟩
      by_cases same : name = first
      · simp [insert, same]
      · by_cases before : name < first
        · simp [insert, same, before]
        · simp [insert, same, before, ih]

theorem find?_insertNew_of_ne (different : other ≠ name) :
    find? other (insertNew name value members) = find? other members := by
  by_cases there : has name members
  · simp [insertNew, there]
  · simp [insertNew, there, find?_insert_of_ne different]

theorem find?_insertNew_self (absent : find? name members = none) :
    find? name (insertNew name value members) = some value := by
  simp [insertNew, has, absent]

theorem find?_erase_of_ne (different : other ≠ name) :
    find? other (erase name members) = find? other members := by
  induction members with
  | nil => rfl
  | cons member rest ih =>
      rcases member with ⟨first, held⟩
      by_cases erased : first = name
      · subst erased
        simpa [erase, find?, different.symm] using ih
      · by_cases wanted : first = other
        · subst wanted
          simp [erase, find?, erased]
        · simpa [erase, find?, erased, wanted] using ih

theorem mem_of_find? (found : find? name members = some value) : (name, value) ∈ members := by
  induction members with
  | nil => simp [find?] at found
  | cons member rest ih =>
      rcases member with ⟨first, held⟩
      by_cases same : first = name
      · subst same
        have held_eq : held = value := by simpa [find?] using found
        simp [held_eq]
      · exact List.mem_cons_of_mem _ (ih (by simpa [find?, same] using found))

theorem find?_of_mem (distinct : (members.map Prod.fst).Nodup)
    (member_mem : (name, value) ∈ members) : find? name members = some value := by
  induction members with
  | nil => simp at member_mem
  | cons member rest ih =>
      rcases member with ⟨first, held⟩
      rcases List.nodup_cons.mp distinct with ⟨apart, restDistinct⟩
      rcases List.mem_cons.mp member_mem with same | rest_mem
      · rcases Prod.mk.inj same with ⟨rfl, rfl⟩
        simp [find?]
      · have different : first ≠ name := by
          rintro rfl
          exact apart (List.mem_map.mpr ⟨_, rest_mem, rfl⟩)
        simpa [find?, different] using ih restDistinct rest_mem

theorem find?_eq_none_iff : find? name members = none ↔ ∀ member ∈ members, member.1 ≠ name := by
  induction members with
  | nil => simp [find?]
  | cons member rest ih =>
      rcases member with ⟨first, held⟩
      by_cases same : first = name <;> simp [find?, same, ih]

@[simp]
theorem override_nil : override members [] = members := rfl

@[simp]
theorem override_cons :
    override members ((name, value) :: changes) = override (insert name value members) changes :=
  rfl

theorem find?_override_of_forall_ne (absent : ∀ change ∈ changes, change.1 ≠ name) :
    find? name (override members changes) = find? name members := by
  induction changes generalizing members with
  | nil => rfl
  | cons change rest ih =>
      rcases change with ⟨changed, set⟩
      have headDiffers : changed ≠ name := absent (changed, set) (by simp)
      have restDiffers : ∀ change ∈ rest, change.1 ≠ name := by
        intro change change_mem
        exact absent change (List.mem_cons_of_mem _ change_mem)
      rw [override_cons, ih restDiffers, find?_insert_of_ne headDiffers.symm]

/-- Of changes with different names each one is found afterwards. -/
theorem find?_override_of_mem (distinct : (changes.map Prod.fst).Nodup)
    (change_mem : (name, value) ∈ changes) :
    find? name (override members changes) = some value := by
  induction changes generalizing members with
  | nil => simp at change_mem
  | cons change rest ih =>
      rcases change with ⟨changed, set⟩
      rcases List.nodup_cons.mp distinct with ⟨fresh, restDistinct⟩
      rcases List.mem_cons.mp change_mem with same | rest_mem
      · rcases Prod.mk.inj same with ⟨rfl, rfl⟩
        have absent : ∀ later ∈ rest, later.1 ≠ name := by
          rintro later later_mem rfl
          exact fresh (List.mem_map.mpr ⟨later, later_mem, rfl⟩)
        rw [override_cons, find?_override_of_forall_ne absent, find?_insert_self]
      · exact ih restDistinct rest_mem

theorem lt_of_ne_of_not_lt (different : name ≠ other) (notBefore : ¬name < other) :
    other < name := by
  by_contra notAfter
  exact different (String.le_antisymm (String.not_lt.mp notAfter) (String.not_lt.mp notBefore))

/-- What stands in the list after `insert` is the new member or stood there before. -/
theorem eq_or_mem_of_mem_insert {member : String × Value}
    (member_mem : member ∈ insert name value members) :
    member = (name, value) ∨ member ∈ members := by
  induction members with
  | nil => simpa [insert] using member_mem
  | cons head rest ih =>
      rcases head with ⟨first, held⟩
      by_cases same : name = first
      · simp only [insert, if_pos same, List.mem_cons] at member_mem
        rcases member_mem with inserted | rest_mem
        · exact Or.inl inserted
        · exact Or.inr (List.mem_cons_of_mem _ rest_mem)
      · by_cases before : name < first
        · simpa [insert, same, before] using member_mem
        · simp only [insert, if_neg same, if_neg before, List.mem_cons] at member_mem
          rcases member_mem with kept_head | rest_mem
          · exact Or.inr (by simp [kept_head])
          · rcases ih rest_mem with inserted | old_mem
            · exact Or.inl inserted
            · exact Or.inr (List.mem_cons_of_mem _ old_mem)

theorem Sorted.insert (sorted : Sorted members) : Sorted (insert name value members) := by
  induction members with
  | nil => simp [Sorted, Members.insert]
  | cons head rest ih =>
      rcases head with ⟨first, held⟩
      rcases List.pairwise_cons.mp sorted with ⟨first_lt, restSorted⟩
      by_cases same : name = first
      · subst same
        simp only [Members.insert, if_pos]
        exact List.pairwise_cons.mpr ⟨first_lt, restSorted⟩
      · by_cases before : name < first
        · simp only [Members.insert, if_neg same, if_pos before]
          refine List.pairwise_cons.mpr ⟨?_, sorted⟩
          intro member member_mem
          rcases List.mem_cons.mp member_mem with rfl | rest_mem
          · exact before
          · exact String.lt_trans before (first_lt member rest_mem)
        · simp only [Members.insert, if_neg same, if_neg before]
          refine List.pairwise_cons.mpr ⟨?_, ih restSorted⟩
          intro member member_mem
          rcases eq_or_mem_of_mem_insert member_mem with rfl | rest_mem
          · exact lt_of_ne_of_not_lt same before
          · exact first_lt member rest_mem

theorem Sorted.override (sorted : Sorted members) : Sorted (override members changes) := by
  induction changes generalizing members with
  | nil => exact sorted
  | cons change rest ih => exact ih sorted.insert

theorem Sorted.distinct (sorted : Sorted members) : (members.map Prod.fst).Nodup := by
  rw [List.Nodup, List.pairwise_map]
  apply List.Pairwise.imp _ sorted
  intro left right before same
  exact String.lt_irrefl _ (same ▸ before)

theorem sorted_ofList : Sorted (ofList members) :=
  Sorted.override List.Pairwise.nil

theorem Sorted.without {names : List String} (sorted : Sorted members) :
    Sorted (without names members) :=
  List.Pairwise.filter _ sorted

/-- A member with the greatest name is put at the end. -/
theorem insert_eq_append (greatest : ∀ member ∈ members, member.1 < name) :
    insert name value members = members ++ [(name, value)] := by
  induction members with
  | nil => rfl
  | cons head rest ih =>
      rcases head with ⟨first, held⟩
      have first_lt : first < name := greatest (first, held) (by simp)
      have different : name ≠ first := by
        rintro rfl
        exact String.lt_irrefl _ first_lt
      have notBefore : ¬name < first := fun before =>
        String.lt_irrefl _ (String.lt_trans before first_lt)
      simp [insert, different, notBefore,
        ih fun member member_mem => greatest member (List.mem_cons_of_mem _ member_mem)]

/-- A member with the smallest name is put at the front. -/
theorem insert_eq_cons (smallest : ∀ member ∈ members, name < member.1) :
    insert name value members = (name, value) :: members := by
  cases members with
  | nil => rfl
  | cons head rest =>
      rcases head with ⟨first, held⟩
      have before : name < first := smallest (first, held) (by simp)
      have different : name ≠ first := by
        rintro rfl
        exact String.lt_irrefl _ before
      simp [insert, different, before]

theorem override_eq_append (sorted : Sorted (members ++ changes)) :
    override members changes = members ++ changes := by
  induction changes generalizing members with
  | nil => simp
  | cons change rest ih =>
      rcases change with ⟨changed, set⟩
      have greatest : ∀ member ∈ members, member.1 < changed := by
        intro member member_mem
        exact (List.pairwise_append.mp sorted).2.2 member member_mem (changed, set) (by simp)
      rw [override_cons, insert_eq_append greatest, ih (by simpa using sorted)]
      simp

/-- Members that are in order already are put in order as they are. -/
theorem ofList_of_sorted (sorted : Sorted members) : ofList members = members := by
  have appended : override [] members = [] ++ members := override_eq_append (by simpa using sorted)
  simpa [ofList] using appended

theorem without_cons {names : List String} :
    without names ((name, value) :: members) =
      if name ∈ names then without names members else (name, value) :: without names members := by
  by_cases listed : name ∈ names <;> simp [without, listed]

theorem find?_without_of_not_mem {names : List String} (unlisted : name ∉ names) :
    find? name (without names members) = find? name members := by
  induction members with
  | nil => rfl
  | cons member rest ih =>
      rcases member with ⟨first, held⟩
      by_cases same : first = name
      · subst same
        simp [without_cons, unlisted, find?]
      · by_cases listed : first ∈ names <;> simp [without_cons, listed, find?, same, ih]

theorem without_insert_of_mem {names : List String} (listed : name ∈ names) :
    without names (insert name value members) = without names members := by
  induction members with
  | nil => simp [insert, without, listed]
  | cons head rest ih =>
      rcases head with ⟨first, held⟩
      by_cases same : name = first
      · subst same
        simp [insert, without_cons, listed]
      · by_cases before : name < first
        · simp [insert, without_cons, same, before, listed]
        · simp [insert, without_cons, same, before, ih]

/-- In a list in order it makes no difference whether a member is set before others are left out
or after. -/
theorem without_insert_of_not_mem {names : List String} (unlisted : name ∉ names)
    (sorted : Sorted members) :
    without names (insert name value members) = insert name value (without names members) := by
  induction members with
  | nil => simp [insert, without, unlisted]
  | cons head rest ih =>
      rcases head with ⟨first, held⟩
      rcases List.pairwise_cons.mp sorted with ⟨first_lt, restSorted⟩
      by_cases same : name = first
      · subst same
        simp [insert, without_cons, unlisted]
      · by_cases before : name < first
        · have smallest : ∀ member ∈ without names ((first, held) :: rest), name < member.1 := by
            intro member member_mem
            rcases List.mem_cons.mp (List.mem_filter.mp member_mem).1 with rfl | rest_mem
            · exact before
            · exact String.lt_trans before (first_lt member rest_mem)
          rw [insert_eq_cons smallest, insert, if_neg same, if_pos before, without_cons,
            if_neg unlisted]
        · by_cases firstListed : first ∈ names
          · simp [insert, without_cons, same, before, firstListed, ih restSorted]
          · simp [insert, without_cons, same, before, firstListed, ih restSorted]

/-- Changes that are left out again leave no trace. -/
theorem without_override_of_mem {names : List String}
    (listed : ∀ change ∈ changes, change.1 ∈ names) :
    without names (override members changes) = without names members := by
  induction changes generalizing members with
  | nil => rfl
  | cons change rest ih =>
      rcases change with ⟨changed, set⟩
      have restListed : ∀ change ∈ rest, change.1 ∈ names := by
        intro change change_mem
        exact listed change (List.mem_cons_of_mem _ change_mem)
      rw [override_cons, ih restListed, without_insert_of_mem (listed (changed, set) (by simp))]

theorem without_override_of_not_mem {names : List String}
    (unlisted : ∀ change ∈ changes, change.1 ∉ names) (sorted : Sorted members) :
    without names (override members changes) = override (without names members) changes := by
  induction changes generalizing members with
  | nil => rfl
  | cons change rest ih =>
      rcases change with ⟨changed, set⟩
      have restUnlisted : ∀ change ∈ rest, change.1 ∉ names := by
        intro change change_mem
        exact unlisted change (List.mem_cons_of_mem _ change_mem)
      rw [override_cons, ih restUnlisted sorted.insert, override_cons,
        without_insert_of_not_mem (unlisted (changed, set) (by simp)) sorted]

theorem not_mem_of_mem_without {names : List String} {member : String × Value}
    (member_mem : member ∈ without names members) : member.1 ∉ names := by
  simpa using (List.mem_filter.mp member_mem).2

theorem mem_names_of_mem_ofList {names : List String} {fields : List (String × Value)}
    (listed : ∀ field ∈ fields, field.1 ∈ names) : ∀ member ∈ ofList fields, member.1 ∈ names := by
  have noOther : without names (ofList fields) = [] := without_override_of_mem listed
  simpa [without, List.filter_eq_nil_iff] using noOther

/-- The fields of a record and the members beyond them can be told apart again. -/
theorem without_override_ofList {names : List String} {fields extra : List (String × Value)}
    (listed : ∀ field ∈ fields, field.1 ∈ names) (unlisted : ∀ member ∈ extra, member.1 ∉ names)
    (sorted : Sorted extra) : without names (override (ofList fields) extra) = extra := by
  have noField : without names (ofList fields) = [] := without_override_of_mem listed
  rw [without_override_of_not_mem unlisted sorted_ofList, noField]
  exact ofList_of_sorted sorted

end Provision.Members

namespace Provision.Json

mutual

/-- The members of every object in a document stand in the order of their names. -/
def Ordered : Json → Prop
  | .array elements => OrderedElements elements
  | .object members => Members.Sorted members ∧ OrderedMembers members
  | .null | .bool _ | .number _ | .string _ => True

def OrderedElements : List Json → Prop
  | [] => True
  | element :: rest => element.Ordered ∧ OrderedElements rest

def OrderedMembers : List (String × Json) → Prop
  | [] => True
  | (_, value) :: rest => value.Ordered ∧ OrderedMembers rest

end

instance (members : List (String × Json)) : Decidable (Members.Sorted members) :=
  inferInstanceAs (Decidable (members.Pairwise fun left right => left.1 < right.1))

mutual

/-- Decides whether a document is ordered. -/
def decideOrdered : (document : Json) → Decidable document.Ordered
  | .array elements => decideOrderedElements elements
  | .object members =>
    have := decideOrderedMembers members
    inferInstanceAs (Decidable (Members.Sorted members ∧ OrderedMembers members))
  | .null | .bool _ | .number _ | .string _ => isTrue trivial

def decideOrderedElements : (elements : List Json) → Decidable (OrderedElements elements)
  | [] => isTrue trivial
  | element :: rest =>
    have := decideOrdered element
    have := decideOrderedElements rest
    inferInstanceAs (Decidable (element.Ordered ∧ OrderedElements rest))

def decideOrderedMembers : (members : List (String × Json)) → Decidable (OrderedMembers members)
  | [] => isTrue trivial
  | (_, value) :: rest =>
    have := decideOrdered value
    have := decideOrderedMembers rest
    inferInstanceAs (Decidable (value.Ordered ∧ OrderedMembers rest))

end

instance (document : Json) : Decidable document.Ordered := decideOrdered document

variable {name : String} {value document : Json} {elements : List Json}
  {members changes : List (String × Json)}

theorem orderedElements_iff :
    OrderedElements elements ↔ ∀ element ∈ elements, element.Ordered := by
  induction elements with
  | nil => simp [OrderedElements]
  | cons element rest ih => simp [OrderedElements, ih]

theorem orderedMembers_iff :
    OrderedMembers members ↔ ∀ member ∈ members, member.2.Ordered := by
  induction members with
  | nil => simp [OrderedMembers]
  | cons member rest ih => simp [OrderedMembers, ih]

theorem Ordered.element (ordered : (Json.array elements).Ordered) {element : Json}
    (element_mem : element ∈ elements) : element.Ordered :=
  orderedElements_iff.mp ordered element element_mem

theorem Ordered.sorted (ordered : (Json.object members).Ordered) : Members.Sorted members :=
  ordered.1

theorem Ordered.member (ordered : (Json.object members).Ordered)
    (found : Members.find? name members = some value) : value.Ordered :=
  orderedMembers_iff.mp ordered.2 _ (Members.mem_of_find? found)

/-- What is found in an ordered document is ordered. -/
theorem Ordered.get? (ordered : document.Ordered) (found : document.get? name = some value) :
    value.Ordered := by
  cases document with
  | object members => exact ordered.member (by simpa [Json.get?, members?] using found)
  | _ => simp [Json.get?, members?] at found

end Provision.Json
