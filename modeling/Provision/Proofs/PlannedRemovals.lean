import Provision.Item.Credential
import Provision.Item.Entry
import Provision.Proofs.Planning

/-!
# A removal and its specification

What a removal comes to is said here without its searches and indices.  It is
refused for want of an id, or because no item has the id, or it is planned around
the first item that has it.  The gate of an item is shut by a function of its
kind, which is a parameter here: kinds without a gate leave their items alone.

A plan holds collections and not changes, so what stands after some of its writes
is the collection of the last one.  Hence what a plan expects to find when one of
its steps fails, and hence a removal that is planned again from the collection of
its first step, as happens after the second one failed, writes the same
collections.
-/

namespace Provision

instance : Item.Steady Entry where
  id_setEnabled _ _ := rfl
  key_setEnabled _ _ := rfl

instance : Item.Steady Credential where
  id_setEnabled _ _ := rfl
  key_setEnabled _ _ := rfl

/-- The gates of a kind of item are shut by a function.  A gate that is shut stays shut, and an item
without one is left alone. -/
structure Item.ShutBy {Element : Type} [Item Element] (shut : Element → Element) : Prop where
  setEnabled_eq (item : Element) : Item.setEnabled false item = shut item
  enabled_shut (item : Element) : Item.enabled (shut item) = (Item.enabled item).map fun _ => false
  shut_of_ungated (item : Element) (ungated : Item.enabled item = none) : shut item = item
  shut_shut (item : Element) : shut (shut item) = shut item

/-- An entry has a gate if it says whether it is open. -/
theorem Entry.shutBy :
    Item.ShutBy fun entry : Entry =>
      { entry with enabled := entry.enabled.map fun _ => false } where
  setEnabled_eq _ := rfl
  enabled_shut _ := rfl
  shut_of_ungated entry ungated := by
    rcases entry with ⟨id, key, enabled, attributes⟩
    obtain rfl : enabled = none := ungated
    rfl
  shut_shut entry := by simp [Function.comp_def]

theorem Scope.shutBy : Item.ShutBy fun scope : Scope => { scope with isEnabled := false } where
  setEnabled_eq _ := rfl
  enabled_shut _ := rfl
  shut_of_ungated scope ungated := by cases ungated
  shut_shut _ := rfl

theorem IdentifierUri.shutBy : Item.ShutBy fun identifier : IdentifierUri => identifier where
  setEnabled_eq _ := rfl
  enabled_shut _ := rfl
  shut_of_ungated _ _ := rfl
  shut_shut _ := rfl

theorem Credential.shutBy : Item.ShutBy fun credential : Credential => credential where
  setEnabled_eq _ := rfl
  enabled_shut _ := rfl
  shut_of_ungated _ _ := rfl
  shut_shut _ := rfl

namespace Removal

variable {Element : Type} {plan : Removal Element}

/-- What stands of a collection when the first few steps of a plan have been written. -/
def standing (plan : Removal Element) (collection : Collection Element) (count : Nat) :
    Collection Element :=
  (plan.steps.take count).foldl (fun _ step => step.collection) collection

theorem standing_succ {collection : Collection Element} {index : Nat} {step : Step Element}
    (found : plan.steps[index]? = some step) :
    plan.standing collection (index + 1) = step.collection := by
  simp [standing, List.take_add_one, found]

theorem stateIfFailedAt_eq_standing [Item Element] {collection : Collection Element}
    (initial : plan.initial = ItemState.of collection plan.targetId) {index : Nat}
    (index_le : index ≤ plan.steps.length) :
    plan.stateIfFailedAt index = ItemState.of (plan.standing collection index) plan.targetId := by
  cases index with
  | zero => simpa [stateIfFailedAt, standing] using initial
  | succ before =>
      obtain ⟨step, found⟩ : ∃ step, plan.steps[before]? = some step :=
        ⟨_, List.getElem?_eq_getElem index_le⟩
      simp [stateIfFailedAt, found, standing_succ found]

theorem getElem?_positioned (plan : Removal Element) (index : Nat) :
    plan.positioned[index]? =
      plan.steps[index]?.map fun step => (⟨index + 1, plan.steps.length, step.kind⟩, step) := by
  simp [positioned, Function.comp_def]

theorem position?_eq_positioned (plan : Removal Element) (index : Nat) :
    plan.position? index = plan.positioned[index]?.map Prod.fst := by
  simp [getElem?_positioned, position?, Function.comp_def]

end Removal

namespace Collection

variable {Element : Type} [Item Element] {collection : Collection Element} {targetId : String}
  {disableFirst : Bool} {result : Except PlanError (Removal Element)} {plan : Removal Element}
  {shut : Element → Element}

/-- What comes of a removal, where `shut` shuts the gate of an item. -/
inductive RemovalOutcome (shut : Element → Element) (collection : Collection Element)
    (targetId : String) (disableFirst : Bool) : Except PlanError (Removal Element) → Prop
  /-- No id is given. -/
  | missing (blank : Text.trim targetId = "") :
      RemovalOutcome shut collection targetId disableFirst (.error (.missing "target_id"))
  /-- No item has the id. -/
  | unknown (given : Text.trim targetId ≠ "")
      (absent : ∀ item ∈ collection.items, Item.id item ≠ Text.trim targetId) :
      RemovalOutcome shut collection targetId disableFirst
        (.error (.notFound ("item with id '" ++ Text.trim targetId ++ "'")))
  /-- The first item that has the id is left out, after its gate was shut if that is asked for. -/
  | planned {before after : List Element} {target : Element}
      (given : Text.trim targetId ≠ "") (items_eq : collection.items = before ++ target :: after)
      (hasId : Item.id target = Text.trim targetId)
      (first : ∀ other ∈ before, Item.id other ≠ Text.trim targetId) :
      RemovalOutcome shut collection targetId disableFirst (.ok {
        targetId := Text.trim targetId
        targetKey := Item.key target
        initial := .present (Item.enabled target)
        steps :=
          (if disableFirst then [⟨.disable, ⟨before ++ shut target :: after⟩⟩] else []) ++
            [⟨.leaveOut, ⟨before ++ after⟩⟩] })

theorem remove_of_blank (blank : Text.trim targetId = "") :
    collection.remove targetId disableFirst = .error (.missing "target_id") := by
  simp [remove, Argument.required_of_trim_eq blank, bind, Except.bind]

theorem remove_of_absent (given : Text.trim targetId ≠ "")
    (absent : ∀ item ∈ collection.items, Item.id item ≠ Text.trim targetId) :
    collection.remove targetId disableFirst =
      .error (.notFound ("item with id '" ++ Text.trim targetId ++ "'")) := by
  have notFound : collection.indexOfId? (Text.trim targetId) = none := by
    simpa [indexOfId?, List.findIdx?_eq_none_iff] using absent
  simp [remove, Argument.required_of_trim_ne given, notFound, bind, Except.bind, throw, throwThe,
    MonadExceptOf.throw]

/-- Where no item has the id there is nothing to split the items at; else they are split at the
first item that has it. -/
theorem absent_or_exists_first (collection : Collection Element) (id : String) :
    (∀ item ∈ collection.items, Item.id item ≠ id) ∨
      ∃ before target after, collection.items = before ++ target :: after ∧
        Item.id target = id ∧ ∀ other ∈ before, Item.id other ≠ id := by
  cases found : collection.indexOfId? id with
  | none =>
      left
      simpa [indexOfId?, List.findIdx?_eq_none_iff] using found
  | some index =>
      right
      rcases exists_split_of_findIdx? found with
        ⟨before, target, after, items_eq, -, hasId, beforeOther⟩
      exact ⟨before, target, after, items_eq, by simpa using hasId, by simpa using beforeOther⟩

theorem RemovalOutcome.remove_eq (shuts : Item.ShutBy shut)
    (outcome : RemovalOutcome shut collection targetId disableFirst result) :
    collection.remove targetId disableFirst = result := by
  cases outcome with
  | missing blank => exact remove_of_blank blank
  | unknown given absent => exact remove_of_absent given absent
  | planned given items_eq hasId first =>
      rw [remove_split given items_eq hasId first]
      cases disableFirst <;> simp [Removal.ofSplit, shuts.setEnabled_eq, hasId]

/-- The cases leave nothing out and exclude one another. -/
theorem remove_eq_iff_outcome (shuts : Item.ShutBy shut) :
    collection.remove targetId disableFirst = result ↔
      RemovalOutcome shut collection targetId disableFirst result := by
  refine ⟨?_, RemovalOutcome.remove_eq shuts⟩
  rintro rfl
  obtain ⟨result, outcome⟩ :
      ∃ result, RemovalOutcome shut collection targetId disableFirst result := by
    by_cases given : Text.trim targetId = ""
    · exact ⟨_, .missing given⟩
    · rcases collection.absent_or_exists_first (Text.trim targetId) with
        absent | ⟨_, _, _, items_eq, hasId, first⟩
      · exact ⟨_, .unknown given absent⟩
      · exact ⟨_, .planned given items_eq hasId first⟩
  rw [outcome.remove_eq shuts]
  exact outcome

theorem initial_of_remove (planned : collection.remove targetId disableFirst = .ok plan) :
    plan.initial = ItemState.of collection plan.targetId := by
  rcases remove_cases planned with ⟨before, target, after, items_eq, hasId, first, rfl⟩
  exact (itemState_of_first items_eq rfl first).symm

/-- A removal that is planned again from a collection with the gate shut differs in nothing but what
it expects to find. -/
theorem remove_again [Item.Steady Element] (shuts : Item.ShutBy shut)
    (planned : collection.remove targetId disableFirst = .ok plan) {step : Step Element}
    (step_mem : step ∈ plan.steps) (disables : step.kind = .disable) :
    step.collection.remove targetId disableFirst =
      .ok { plan with initial := ItemState.of step.collection plan.targetId } := by
  cases (remove_eq_iff_outcome shuts).mp planned with
  | @planned before after target given _ hasId first =>
      obtain ⟨rfl, rfl⟩ :
          disableFirst = true ∧ step = ⟨.disable, ⟨before ++ shut target :: after⟩⟩ := by
        cases disableFirst with
        | false =>
            obtain rfl : step = ⟨.leaveOut, ⟨before ++ after⟩⟩ := by simpa using step_mem
            cases disables
        | true =>
            rcases List.mem_cons.mp step_mem with rfl | omitted_mem
            · exact ⟨rfl, rfl⟩
            · obtain rfl : step = ⟨.leaveOut, ⟨before ++ after⟩⟩ := by simpa using omitted_mem
              cases disables
      have shutId : Item.id (shut target) = Text.trim targetId := by
        rw [← shuts.setEnabled_eq, Item.Steady.id_setEnabled, hasId]
      have shutKey : Item.key (shut target) = Item.key target := by
        rw [← shuts.setEnabled_eq, Item.Steady.key_setEnabled]
      have state : ItemState.of ⟨before ++ shut target :: after⟩ (Text.trim targetId) =
          .present (Item.enabled (shut target)) := itemState_of_first rfl shutId first
      rw [remove_split given rfl shutId first]
      simp [Removal.ofSplit, shuts.setEnabled_eq, shuts.shut_shut, shutId, shutKey, state]

/-- What holds of every removal of one kind of item, whose gates are shut by `shut`. -/
structure RemovalLaws {Element : Type} [Item Element] (shut : Element → Element) : Prop where
  /-- A gate that is there is shut afterwards, and an item without one is left alone. -/
  gate : Item.ShutBy shut
  /-- A removal is its specification: the fault that comes first, or the plan. -/
  outcome (collection : Collection Element) (targetId : String) (disableFirst : Bool)
    (result : Except PlanError (Removal Element)) :
    collection.remove targetId disableFirst = result ↔
      RemovalOutcome shut collection targetId disableFirst result
  /-- A step that fails leaves the target as it is in what the steps before it wrote. -/
  state {collection : Collection Element} {targetId : String} {disableFirst : Bool}
    {plan : Removal Element} (planned : collection.remove targetId disableFirst = .ok plan)
    {index : Nat} (index_le : index ≤ plan.steps.length) :
    plan.stateIfFailedAt index = ItemState.of (plan.standing collection index) plan.targetId
  /-- The place of a step is its number in the plan, in both ways to ask for it. -/
  place (plan : Removal Element) (index : Nat) :
    plan.positioned[index]? =
        plan.steps[index]?.map (fun step => (⟨index + 1, plan.steps.length, step.kind⟩, step)) ∧
      plan.position? index = plan.positioned[index]?.map Prod.fst
  /-- The removal that is planned again when the gate is shut has the same steps. -/
  again {collection : Collection Element} {targetId : String} {disableFirst : Bool}
    {plan : Removal Element} (planned : collection.remove targetId disableFirst = .ok plan)
    {step : Step Element} (step_mem : step ∈ plan.steps) (disables : step.kind = .disable) :
    step.collection.remove targetId disableFirst =
      .ok { plan with initial := ItemState.of step.collection plan.targetId }

theorem removalLaws [Item.Steady Element] (shuts : Item.ShutBy shut) : RemovalLaws shut where
  gate := shuts
  outcome _ _ _ _ := remove_eq_iff_outcome shuts
  state planned _ index_le :=
    Removal.stateIfFailedAt_eq_standing (initial_of_remove planned) index_le
  place plan index := ⟨plan.getElem?_positioned index, plan.position?_eq_positioned index⟩
  again planned _ step_mem disables := remove_again shuts planned step_mem disables

/-- The removals of every kind of item are what their specification says. -/
theorem remove_meets_specification :
    RemovalLaws (fun entry : Entry => { entry with enabled := entry.enabled.map fun _ => false }) ∧
      RemovalLaws (fun scope : Scope => { scope with isEnabled := false }) ∧
      RemovalLaws (fun identifier : IdentifierUri => identifier) ∧
      RemovalLaws (fun credential : Credential => credential) :=
  ⟨removalLaws Entry.shutBy, removalLaws Scope.shutBy, removalLaws IdentifierUri.shutBy,
    removalLaws Credential.shutBy⟩

end Collection

end Provision
