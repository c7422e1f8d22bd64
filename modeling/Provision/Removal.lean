import Provision.Collection

/-!
# Removing one item

The server refuses to drop an item whose gate is open, so a removal may take two
steps: the first writes the collection with the gate of the target shut, the
second writes it without the target.  A plan holds the collection of each step;
what the target is like when a step fails is read off the collection of the step
before it.
-/

namespace Provision

/-- What a step of a removal does to the target. -/
inductive StepKind where
  /-- The collection is written with the target disabled. -/
  | disable
  /-- The collection is written without the target. -/
  | leaveOut
deriving DecidableEq, Repr

/-- The name of a kind of step. -/
def StepKind.name : StepKind → String
  | disable => "disable"
  | leaveOut => "omit"

/-- The kind of step with a given name. -/
def StepKind.ofName? : String → Option StepKind
  | "disable" => some disable
  | "omit" => some leaveOut
  | _ => none

/-- A collection to be written, and what for. -/
structure Step (Element : Type) where
  kind : StepKind
  collection : Collection Element
deriving DecidableEq, Repr

/-- The place of a step in its plan, counted from one. -/
structure StepPosition where
  index : Nat
  total : Nat
  kind : StepKind
deriving DecidableEq, Repr

/-- The wording of a place in a plan. -/
def StepPosition.text (position : StepPosition) : String :=
  "step " ++ Text.decimal position.index ++ "/" ++ Text.decimal position.total ++ " ("
    ++ position.kind.name ++ ")"

/-- What can be seen of an item on the server. -/
inductive ItemState where
  | present (enabled : Option Bool)
  | absent
deriving DecidableEq, Repr

namespace ItemState

/-- What a collection shows of the item with a given id. -/
def of {Element : Type} [Item Element] (collection : Collection Element) (id : String) :
    ItemState :=
  match collection.get? id with
  | some item => present (Item.enabled item)
  | none => absent

/-- Whether an item is listed with its gate shut, as a removal leaves it that stops half-way. -/
def isStranded : ItemState → Bool
  | present (some false) => true
  | _ => false

/-- The wording of a state. -/
def text : ItemState → String
  | present (some true) => "present (enabled)"
  | present (some false) => "present (disabled)"
  | present none => "present"
  | absent => "absent"

end ItemState

/-- The collections whose writes remove one item. -/
structure Removal (Element : Type) where
  targetId : String
  targetKey : String
  initial : ItemState
  steps : List (Step Element)
deriving DecidableEq, Repr

namespace Removal

variable {Element : Type}

/-- The place of the step at a position counted from zero. -/
def position? (plan : Removal Element) (index : Nat) : Option StepPosition :=
  plan.steps[index]?.map fun step => ⟨index + 1, plan.steps.length, step.kind⟩

/-- The steps in the order of their writes, each with its place. -/
def positioned (plan : Removal Element) : List (StepPosition × Step Element) :=
  plan.steps.zipIdx.map fun (step, index) => (⟨index + 1, plan.steps.length, step.kind⟩, step)

/-- What the target is like when the step at a position counted from zero fails and all steps before
it succeeded. -/
def stateIfFailedAt [Item Element] (plan : Removal Element) : Nat → ItemState
  | 0 => plan.initial
  | before + 1 =>
    match plan.steps[before]? with
    | some step => ItemState.of step.collection plan.targetId
    | none => plan.initial

end Removal

namespace Collection

variable {Element : Type} [Item Element]

/-- Plans the removal of the first item with a given id, with the gate shut in a step of its own if
`disableFirst` says so. -/
def remove (collection : Collection Element) (targetId : String) (disableFirst : Bool) :
    Except PlanError (Removal Element) := do
  let targetId ← Argument.required "target_id" targetId
  let missing := PlanError.notFound ("item with id '" ++ targetId ++ "'")
  let some index := collection.indexOfId? targetId | throw missing
  let some target := collection.items[index]? | throw missing
  let disabled : Step Element :=
    ⟨.disable, ⟨collection.items.set index (Item.setEnabled false target)⟩⟩
  let omitted : Step Element := ⟨.leaveOut, ⟨collection.items.eraseIdx index⟩⟩
  return {
    targetId
    targetKey := Item.key target
    initial := ItemState.of collection targetId
    steps := if disableFirst then [disabled, omitted] else [omitted] }

/-- Plans the removal of the only item with a given key. -/
def removeByKey (collection : Collection Element) (key : String) (disableFirst : Bool) :
    Except PlanError (Removal Element) := do
  let key ← Argument.required "key" key
  let item ← collection.itemWithKey key
  collection.remove (Item.id item) disableFirst

end Collection

end Provision
