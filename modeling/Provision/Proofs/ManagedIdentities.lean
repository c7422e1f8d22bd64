import Provision.Proofs.Arguments
import Provision.Proofs.ResourceCollections

/-!
# Managed identities as an ordered map

The managed identities of a group are a map from names to locations that remembers the order in
which its names came.  A creation under a name that is there replaces the location in its place, a
creation under a new name comes last, and a deletion forgets the name.  Each run of an operation is
such a step on the roster, or it is rejected before any request.  A name that is accepted is one
segment of every path it becomes part of, so a run touches no more than its own identity.
-/

namespace Provision

open Replica (Documents HoldsResources HoldsSame Calm resourceDocument find?_resourceMembers)

namespace ManagedIdentity

variable {name trimmed : String}

/-- A text that is made as the name of a managed identity has to be. -/
def IsName (name : String) : Prop :=
  (3 ≤ name.toList.length ∧ name.toList.length ≤ 128) ∧ ∀ char ∈ name.toList, isNameChar char = true

instance (name : String) : Decidable (IsName name) :=
  decidable_of_iff ((3 ≤ name.toList.length ∧ name.toList.length ≤ 128) ∧
    name.toList.all isNameChar = true) (and_congr_right fun _ => List.all_eq_true)

theorem IsName.isPlainName (isName : IsName name) : IsPlainName name := by
  refine ⟨?_, isName.2⟩
  rintro rfl
  exact absurd isName.1.1 (by decide)

theorem checkName_of_isName (isName : IsName (Text.trim name)) :
    checkName name = .ok (Text.trim name) := by
  have given : Text.trim name ≠ "" := isName.isPlainName.given
  rw [checkName, Argument.required_of_trim_ne given]
  have allowed : 3 ≤ (Text.trim name).toList.length ∧ (Text.trim name).toList.length ≤ 128 ∧
      (Text.trim name).toList.all isNameChar = true :=
    ⟨isName.1.1, isName.1.2, List.all_eq_true.mpr isName.2⟩
  simp only [bind, Except.bind, allowed]
  rfl

theorem isName_of_checkName (accepted : checkName name = .ok trimmed) :
    trimmed = Text.trim name ∧ IsName (Text.trim name) := by
  rw [checkName] at accepted
  cases given : Argument.required "name" name with
  | error error => simp [given, bind, Except.bind] at accepted
  | ok found =>
      obtain ⟨rfl, -⟩ := Argument.eq_trim_of_required given
      simp only [given, bind, Except.bind] at accepted
      split at accepted
      · rename_i allowed
        obtain ⟨atLeast, atMost, plain⟩ := allowed
        exact ⟨(Except.ok.inj accepted).symm, ⟨atLeast, atMost⟩, List.all_eq_true.mp plain⟩
      · simp [throw, throwThe, MonadExceptOf.throw] at accepted

end ManagedIdentity

/-- The names of managed identities in the order in which they came, each with its location. -/
abbrev Roster := List (String × String)

namespace Roster

/-- Sets the location of a name, in its place or after all others. -/
def record (name location : String) : Roster → Roster
  | [] => [(name, location)]
  | (other, kept) :: rest =>
    if other = name then (name, location) :: rest else (other, kept) :: record name location rest

variable {name other location : String} {roster : Roster}

theorem names_record : (roster.record name location).map Prod.fst =
    if name ∈ roster.map Prod.fst then roster.map Prod.fst else roster.map Prod.fst ++ [name] := by
  induction roster with
  | nil => rfl
  | cons entry rest ih =>
      rcases entry with ⟨other, kept⟩
      by_cases same : other = name
      · simp [record, same]
      · by_cases later : name ∈ rest.map Prod.fst <;>
          simp_all [record, Ne.symm same]

theorem find?_record : Members.find? other (roster.record name location) =
    if name = other then some location else Members.find? other roster := by
  induction roster with
  | nil => rfl
  | cons entry rest ih =>
      rcases entry with ⟨held, kept⟩
      by_cases same : held = name
      · subst same
        by_cases wanted : held = other <;> simp [record, Members.find?, wanted]
      · by_cases wanted : held = other
        · subst wanted
          simp [record, same, Members.find?, Ne.symm same]
        · simp [record, same, Members.find?, wanted, ih]

theorem find?_erase : Members.find? other (Members.erase name roster) =
    if name = other then none else Members.find? other roster := by
  by_cases same : name = other
  · subst same
    rw [if_pos rfl, Members.find?_eq_none_iff]
    intro entry entry_mem
    simpa [Members.erase] using (List.mem_filter.mp entry_mem).2
  · rw [if_neg same, Members.find?_erase_of_ne (Ne.symm same)]

end Roster

/-- A run of an operation on the managed identities, by its arguments. -/
inductive IdentityStep where
  | create (name location : String)
  | delete (name : String)

namespace IdentityStep

/-- What a run is to do to which name: to set its location, or to remove it.  With malformed
arguments it does nothing. -/
def effect? : IdentityStep → Option (String × Option String)
  | create name location =>
    if ManagedIdentity.IsName (Text.trim name) ∧ Text.trim location ≠ "" then
      some (Text.trim name, some (Text.trim location))
    else none
  | delete name =>
    if ManagedIdentity.IsName (Text.trim name) then some (Text.trim name, none) else none

/-- What a run makes of the roster. -/
def apply (step : IdentityStep) (roster : Roster) : Roster :=
  match step.effect? with
  | none => roster
  | some (name, some location) => roster.record name location
  | some (name, none) => Members.erase name roster

/-- The roster that runs lead to which start without any identity. -/
def roster (steps : List IdentityStep) : Roster :=
  steps.foldl (fun roster step => step.apply roster) []

/-- What a run decides about a name, if anything. -/
def decides (name : String) (step : IdentityStep) : Option (Option String) :=
  match step.effect? with
  | none => none
  | some (other, location) => if other = name then some location else none

/-- The location of a name after some runs, as the last run about the name has left it. -/
def location? (name : String) (steps : List IdentityStep) : Option String :=
  (steps.reverse.findSome? (decides name)).join

/-- A name is there after some runs, and none of those that follow removes it. -/
def Stays (name : String) (before after : List IdentityStep) : Prop :=
  (location? name before).isSome ∧ ∀ step ∈ after, step.decides name ≠ some none

/-- A roster tells what runs have done: the names that are there, each once and with the location
that was set last, and of two names the one first that came first to stay. -/
structure Tells (steps : List IdentityStep) (roster : Roster) : Prop where
  distinct : (roster.map Prod.fst).Nodup
  current : ∀ name, Members.find? name roster = location? name steps
  ordered : (roster.map Prod.fst).Pairwise fun first second =>
    ∃ before after, steps = before ++ after ∧ Stays first before after ∧ ¬Stays second before after

variable {name first second : String} {step : IdentityStep}
  {steps before after : List IdentityStep} {roster : Roster}

theorem location?_append_singleton : location? name (steps ++ [step]) =
    match step.decides name with
    | some location => location
    | none => location? name steps := by
  simp only [location?, List.reverse_append, List.reverse_singleton, List.singleton_append,
    List.findSome?_cons]
  cases step.decides name <;> rfl

theorem find?_apply (name : String) (step : IdentityStep) (roster : Roster) :
    Members.find? name (step.apply roster) =
      match step.decides name with
      | some location => location
      | none => Members.find? name roster := by
  cases effect : step.effect? with
  | none => simp [apply, decides, effect]
  | some found =>
      rcases found with ⟨other, location⟩
      cases location with
      | none =>
          by_cases same : other = name <;> simp [apply, decides, effect, Roster.find?_erase, same]
      | some location =>
          by_cases same : other = name <;> simp [apply, decides, effect, Roster.find?_record, same]

theorem Stays.append (stays : Stays name before after) (kept : step.decides name ≠ some none) :
    Stays name before (after ++ [step]) := by
  refine ⟨stays.1, ?_⟩
  rw [List.forall_mem_append]
  exact ⟨stays.2, by simpa using kept⟩

theorem not_stays_append (leaves : ¬Stays name before after) :
    ¬Stays name before (after ++ [step]) := by
  rintro ⟨isThere, kept⟩
  exact leaves ⟨isThere, (List.forall_mem_append.mp kept).1⟩

/-- What was told of two names is still told after a run that removes neither. -/
theorem ordered_append (kept : step.decides first ≠ some none)
    (ordered : ∃ before after, steps = before ++ after ∧ Stays first before after ∧
      ¬Stays second before after) :
    ∃ before after, steps ++ [step] = before ++ after ∧ Stays first before after ∧
      ¬Stays second before after := by
  obtain ⟨before, after, rfl, stays, leaves⟩ := ordered
  exact ⟨before, after ++ [step], by simp, stays.append kept, not_stays_append leaves⟩

theorem mem_names_of_find? (found : (Members.find? name roster).isSome) :
    name ∈ roster.map Prod.fst := by
  obtain ⟨location, found⟩ := Option.isSome_iff_exists.mp found
  exact List.mem_map.mpr ⟨_, Members.mem_of_find? found, rfl⟩

theorem isSome_find?_of_mem (name_mem : name ∈ roster.map Prod.fst) :
    (Members.find? name roster).isSome := by
  obtain ⟨entry, entry_mem, rfl⟩ := List.mem_map.mp name_mem
  by_contra absent
  rw [Option.not_isSome_iff_eq_none, Members.find?_eq_none_iff] at absent
  exact absent entry entry_mem rfl

/-- The names of a roster are still told in order after a run that removes none of them. -/
theorem Tells.names_append (tells : Tells steps roster)
    (kept : ∀ name ∈ roster.map Prod.fst, step.decides name ≠ some none) :
    (roster.map Prod.fst).Pairwise fun first second => ∃ before after,
      steps ++ [step] = before ++ after ∧ Stays first before after ∧ ¬Stays second before after :=
  tells.ordered.imp_of_mem fun first_mem _ ordered => ordered_append (kept _ first_mem) ordered

/-- What is told is still told with the roster that a run makes of the one before. -/
theorem Tells.apply (tells : Tells steps roster) (step : IdentityStep) :
    Tells (steps ++ [step]) (step.apply roster) := by
  have current : ∀ name, Members.find? name (step.apply roster) =
      location? name (steps ++ [step]) := by
    intro name
    rw [find?_apply, location?_append_singleton, tells.current]
  cases effect : step.effect? with
  | none =>
      have same : step.apply roster = roster := by simp [IdentityStep.apply, effect]
      rw [same] at current ⊢
      exact ⟨tells.distinct, current, tells.names_append fun name _ => by simp [decides, effect]⟩
  | some found =>
      rcases found with ⟨name, location⟩
      cases location with
      | none =>
          have erased : step.apply roster = Members.erase name roster := by
            simp [IdentityStep.apply, effect]
          have fewer : ((step.apply roster).map Prod.fst).Sublist (roster.map Prod.fst) := by
            rw [erased]
            exact List.filter_sublist.map _
          refine ⟨tells.distinct.sublist fewer, current, ?_⟩
          refine (tells.ordered.sublist fewer).imp_of_mem ?_
          intro first second first_mem _ ordered
          apply ordered_append _ ordered
          -- the names that are left are not the one removed, so all of them stay
          have other : name ≠ first := by
            rintro rfl
            have found := isSome_find?_of_mem first_mem
            simp [erased, Roster.find?_erase] at found
          simp [decides, effect, other]
      | some location =>
          have recorded : step.apply roster = roster.record name location := by
            simp [IdentityStep.apply, effect]
          have kept (other : String) : step.decides other ≠ some none := by
            by_cases same : name = other <;> simp [decides, effect, same]
          have told := tells.names_append fun other _ => kept other
          refine ⟨?_, current, ?_⟩ <;> rw [recorded, Roster.names_record] <;> split
          · exact tells.distinct
          · rename_i new
            rw [← List.concat_eq_append]
            exact tells.distinct.concat new
          · exact told
          · rename_i new
            rw [List.pairwise_append]
            refine ⟨told, List.pairwise_singleton _ _, ?_⟩
            -- before this run the names of the roster were there already, and the new one was not
            intro first first_mem second second_mem
            obtain rfl := List.mem_singleton.mp second_mem
            refine ⟨steps, [step], rfl, ⟨?_, by simpa using kept first⟩, ?_⟩
            · rw [← tells.current]
              exact isSome_find?_of_mem first_mem
            · rintro ⟨isThere, -⟩
              rw [← tells.current] at isThere
              exact new (mem_names_of_find? isThere)

theorem roster_append_singleton : IdentityStep.roster (steps ++ [step]) =
    step.apply (IdentityStep.roster steps) := by
  simp [IdentityStep.roster]

theorem tells_roster (steps : List IdentityStep) : Tells steps (IdentityStep.roster steps) := by
  induction steps using List.reverseRecOn with
  | nil => exact ⟨.nil, fun _ => rfl, .nil⟩
  | append_singleton steps step ih =>
      rw [roster_append_singleton]
      exact ih.apply step

end IdentityStep

namespace ResourceManager

variable {manager : ResourceManager} {name location : String} {roster : Roster}
  {now last : Run Replica} {sent : List Exchange}

/-- A managed identity of the group as the server tells of it. -/
def identity (manager : ResourceManager) (name location : String) : ManagedIdentity :=
  ⟨manager.identityPath name, name, location, {}⟩

/-- The document of a managed identity of the group. -/
def identityDocument (manager : ResourceManager) (name location : String) : Json :=
  resourceDocument (manager.identityPath name) name [("location", .string location)]

/-- The documents of the identities on a roster. -/
def identityDocuments (manager : ResourceManager) (roster : Roster) : Documents :=
  roster.map fun (name, location) => (name, manager.identityDocument name location)

theorem decode?_identityDocument (name location : String) :
    decode? (manager.identityDocument name location) = some (manager.identity name location) := by
  have noId : Members.find? "id" [("location", Json.string location)] = none := by
    simp [Members.find?]
  have noName : Members.find? "name" [("location", Json.string location)] = none := by
    simp [Members.find?]
  simp [identityDocument, resourceDocument, identity, find?_resourceMembers noId noName,
    Members.find?, decode?, Json.fields?, Json.required, Json.withDefault, Json.text?]

theorem readAll?_identityDocuments (roster : Roster) :
    Json.readAll? decode? ((manager.identityDocuments roster).map Prod.snd) =
      some (roster.map fun (name, location) => manager.identity name location) := by
  rw [identityDocuments, List.map_map]
  exact Json.readAll?_map roster fun entry => decode?_identityDocument entry.1 entry.2

theorem identityDocuments_record : manager.identityDocuments (roster.record name location) =
    (manager.identityDocuments roster).store name (manager.identityDocument name location) := by
  induction roster with
  | nil => rfl
  | cons entry rest ih =>
      rcases entry with ⟨other, kept⟩
      simp only [identityDocuments] at ih
      by_cases same : other = name <;>
        simp [identityDocuments, Roster.record, Documents.store, same, ih]

theorem identityDocuments_erase : manager.identityDocuments (Members.erase name roster) =
    (manager.identityDocuments roster).filter fun (other, _) => other ≠ name := by
  simp [identityDocuments, Members.erase, List.filter_map, Function.comp_def]

theorem find?_identityDocuments : (manager.identityDocuments roster).find? name =
    (Members.find? name roster).map (manager.identityDocument name) := by
  induction roster with
  | nil => rfl
  | cons entry rest ih =>
      rcases entry with ⟨other, kept⟩
      simp only [identityDocuments, Documents.find?] at ih
      by_cases same : other = name <;>
        simp [identityDocuments, Documents.find?, Members.find?, same, ih]

/-- The replica holds the managed identities on a roster, and no others. -/
def HoldsRoster (manager : ResourceManager) (roster : Roster) (replica : Replica) : Prop :=
  HoldsResources (manager.base ++ manager.identitiesPath) (manager.identityDocuments roster) replica

/-- What a creation comes to: its arguments are malformed and it sends nothing, or it puts the
identity and returns it. -/
inductive IdentityCreation (manager : ResourceManager) (name location : String) :
    List Exchange → Ending OperationError ManagedIdentity → Prop where
  | rejected {error : PlanError}
      (malformed : ¬ManagedIdentity.IsName (Text.trim name) ∨ Text.trim location = "") :
      IdentityCreation manager name location [] (.failed (.plan error))
  | created (isName : ManagedIdentity.IsName (Text.trim name)) (located : Text.trim location ≠ "") :
      IdentityCreation manager name location
        [⟨⟨.put, manager.url (manager.identityPath (Text.trim name)) ManagedIdentity.version [],
          some (Json.ofMembers [("location", .string (Text.trim location))])⟩,
          .ok (manager.identityDocument (Text.trim name) (Text.trim location))⟩]
        (.returned (manager.identity (Text.trim name) (Text.trim location)))

/-- What a deletion comes to: its name is malformed and it sends nothing, or the identity is not
found, or it is deleted and reported with the id that its creation returned. -/
inductive IdentityDeletion (manager : ResourceManager) (roster : Roster) (name : String) :
    List Exchange → Ending OperationError Deleted → Prop where
  | rejected {error : PlanError} (malformed : ¬ManagedIdentity.IsName (Text.trim name)) :
      IdentityDeletion manager roster name [] (.failed (.plan error))
  | absent {cause : RemoteError} (isName : ManagedIdentity.IsName (Text.trim name))
      (unlisted : Text.trim name ∉ roster.map Prod.fst) :
      IdentityDeletion manager roster name
        [⟨⟨.delete, manager.url (manager.identityPath (Text.trim name)) ManagedIdentity.version [],
          none⟩, .error cause⟩]
        (.failed (.plan (.notFound ("managed identity '" ++ Text.trim name ++ "'"))))
  | deleted {document : Json} (isName : ManagedIdentity.IsName (Text.trim name))
      (listed : Text.trim name ∈ roster.map Prod.fst) :
      IdentityDeletion manager roster name
        [⟨⟨.delete, manager.url (manager.identityPath (Text.trim name)) ManagedIdentity.version [],
          none⟩, .ok document⟩]
        (.returned ⟨"managed identity", manager.identityPath (Text.trim name)⟩)

theorem after_createManagedIdentity {ending : Ending OperationError ManagedIdentity}
    (named : manager.IsNamed)
    (runs : (manager.createManagedIdentity name location).Runs Client.replica now sent ending last)
    (holds : manager.HoldsRoster roster now.state) (calm : now.state.failures = []) :
    manager.IdentityCreation name location sent ending ∧
      manager.HoldsRoster ((IdentityStep.create name location).apply roster) last.state := by
  have isCalm : Calm (fun _ => none) now.state := ⟨fun _ => rfl, calm⟩
  rw [← Client.interrupted_never] at runs
  rcases runs.of_check with ⟨error, refused, rfl, rfl, rfl⟩ | ⟨trimmed, accepted, locates⟩
  · have malformed : ¬ManagedIdentity.IsName (Text.trim name) := by
      intro isName
      simp [ManagedIdentity.checkName_of_isName isName] at refused
    have unchanged : (IdentityStep.create name location).apply roster = roster := by
      simp [IdentityStep.apply, IdentityStep.effect?, malformed]
    rw [unchanged]
    exact ⟨.rejected (.inl malformed), holds⟩
  obtain ⟨rfl, isName⟩ := ManagedIdentity.isName_of_checkName accepted
  rcases locates.of_check with ⟨error, refused, rfl, rfl, rfl⟩ | ⟨trimmed, accepted, creates⟩
  · have blank : Text.trim location = "" := by
      by_contra given
      simp [Argument.required_of_trim_ne given] at refused
    have unchanged : (IdentityStep.create name location).apply roster = roster := by
      simp [IdentityStep.apply, IdentityStep.effect?, blank]
    rw [unchanged]
    exact ⟨.rejected (.inr blank), holds⟩
  obtain ⟨rfl, located⟩ := Argument.eq_trim_of_required accepted
  have recorded : (IdentityStep.create name location).apply roster =
      roster.record (Text.trim name) (Text.trim location) := by
    simp [IdentityStep.apply, IdentityStep.effect?, isName, located]
  rcases put_of_runs named named.identitiesPath_plain isName.isPlainName creates.of_progress holds
    with ⟨_, -, -, -, disturbed⟩ | ⟨state, rest, document, made, rfl, -, holdsLater, decodes⟩
  · exact absurd isCalm disturbed
  obtain rfl : document = manager.identityDocument (Text.trim name) (Text.trim location) := made
  simp only [decode?_identityDocument] at decodes
  obtain ⟨rfl, rfl, rfl⟩ := decodes.unique Program.runs_done
  refine ⟨.created isName located, ?_⟩
  rw [HoldsRoster, recorded, identityDocuments_record]
  exact holdsLater

theorem after_deleteManagedIdentity {ending : Ending OperationError Deleted}
    (named : manager.IsNamed)
    (runs : (manager.deleteManagedIdentity name).Runs Client.replica now sent ending last)
    (holds : manager.HoldsRoster roster now.state) (calm : now.state.failures = []) :
    manager.IdentityDeletion roster name sent ending ∧
      manager.HoldsRoster ((IdentityStep.delete name).apply roster) last.state := by
  have isCalm : Calm (fun _ => none) now.state := ⟨fun _ => rfl, calm⟩
  rw [← Client.interrupted_never] at runs
  rcases runs.of_check with ⟨error, refused, rfl, rfl, rfl⟩ | ⟨trimmed, accepted, deletes⟩
  · have malformed : ¬ManagedIdentity.IsName (Text.trim name) := by
      intro isName
      simp [ManagedIdentity.checkName_of_isName isName] at refused
    have unchanged : (IdentityStep.delete name).apply roster = roster := by
      simp [IdentityStep.apply, IdentityStep.effect?, malformed]
    rw [unchanged]
    exact ⟨.rejected malformed, holds⟩
  obtain ⟨rfl, isName⟩ := ManagedIdentity.isName_of_checkName accepted
  have erased : (IdentityStep.delete name).apply roster =
      Members.erase (Text.trim name) roster := by
    simp [IdentityStep.apply, IdentityStep.effect?, isName]
  rcases deletion_of_runs named named.identitiesPath_plain isName.isPlainName
    deletes.of_progress holds with
    ⟨cause, rfl, rfl, same, reason⟩ | ⟨document, rfl, rfl, stored, -, holdsLater⟩
  · obtain ⟨notStored, isNotFound⟩ := reason isCalm
    have unlisted : Text.trim name ∉ roster.map Prod.fst := by
      intro listed
      have found := IdentityStep.isSome_find?_of_mem listed
      simp [find?_identityDocuments, Option.isSome_iff_ne_none.mp found] at notStored
    have unchanged : Members.erase (Text.trim name) roster = roster := by
      apply List.filter_eq_self.mpr
      intro entry entry_mem
      simpa using ne_of_mem_of_not_mem (List.mem_map_of_mem entry_mem) unlisted
    rw [erased, unchanged, Deleted.failure, if_pos isNotFound]
    exact ⟨.absent isName unlisted, HoldsResources.of_same holds same⟩
  · have listed : Text.trim name ∈ roster.map Prod.fst := by
      apply IdentityStep.mem_names_of_find?
      simpa [find?_identityDocuments] using stored
    refine ⟨.deleted isName listed, ?_⟩
    rw [HoldsRoster, erased, identityDocuments_erase]
    exact holdsLater

/-- Creations and deletions one after the other, each from what the ones before it left, with
nothing to disturb them. -/
inductive IdentityRuns (manager : ResourceManager) (start : Replica) :
    List IdentityStep → Replica → Prop where
  | start : IdentityRuns manager start [] start
  | create {steps : List IdentityStep} {earlier : Replica} {name location : String}
      {ids : IdSupply} {messages : List String} {sent : List Exchange}
      {ending : Ending OperationError ManagedIdentity} {last : Run Replica}
      (before : IdentityRuns manager start steps earlier)
      (runs : (manager.createManagedIdentity name location).Runs Client.replica
        ⟨earlier, ids, messages⟩ sent ending last) :
      IdentityRuns manager start (steps ++ [.create name location]) last.state
  | delete {steps : List IdentityStep} {earlier : Replica} {name : String}
      {ids : IdSupply} {messages : List String} {sent : List Exchange}
      {ending : Ending OperationError Deleted} {last : Run Replica}
      (before : IdentityRuns manager start steps earlier)
      (runs : (manager.deleteManagedIdentity name).Runs Client.replica
        ⟨earlier, ids, messages⟩ sent ending last) :
      IdentityRuns manager start (steps ++ [.delete name]) last.state

theorem failures_eq_nil {Failure Result : Type} {program : Program Failure Result}
    {ending : Ending Failure Result} (calm : now.state.failures = [])
    (runs : program.Runs Client.replica now sent ending last) : last.state.failures = [] := by
  rw [← Client.interrupted_never] at runs
  exact ((Replica.keeps_of_runs runs).2 ⟨fun _ => rfl, calm⟩).noneDue

theorem holdsRoster_of_runs {start replica : Replica} {steps : List IdentityStep}
    (named : manager.IsNamed) (empty : manager.HoldsRoster [] start) (calm : start.failures = [])
    (history : manager.IdentityRuns start steps replica) :
    manager.HoldsRoster (IdentityStep.roster steps) replica ∧ replica.failures = [] := by
  induction history with
  | start => exact ⟨empty, calm⟩
  | create before runs ih =>
      obtain ⟨holds, quiet⟩ := ih
      rw [IdentityStep.roster_append_singleton]
      have after := after_createManagedIdentity named runs holds quiet
      exact ⟨after.2, failures_eq_nil quiet runs⟩
  | delete before runs ih =>
      obtain ⟨holds, quiet⟩ := ih
      rw [IdentityStep.roster_append_singleton]
      have after := after_deleteManagedIdentity named runs holds quiet
      exact ⟨after.2, failures_eq_nil quiet runs⟩

/-- The managed identities of a group that starts without any are those that the roster tells, in
its order; and every further creation or deletion comes to what the roster says. -/
theorem managedIdentities_ordered {start replica : Replica} {steps : List IdentityStep}
    (named : manager.IsNamed) (paged : manager.pageLimit ≠ 0)
    (empty : manager.HoldsRoster [] start) (calm : start.failures = [])
    (history : manager.IdentityRuns start steps replica) (ids : IdSupply) (messages : List String) :
    IdentityStep.Tells steps (IdentityStep.roster steps) ∧
      (manager.listManagedIdentities.run Client.replica ⟨replica, ids, messages⟩).1 =
        .returned ((IdentityStep.roster steps).map fun (name, location) =>
          manager.identity name location) ∧
      (∀ name location sent ending last, (manager.createManagedIdentity name location).Runs
        Client.replica ⟨replica, ids, messages⟩ sent ending last →
          manager.IdentityCreation name location sent ending) ∧
      ∀ name sent ending last, (manager.deleteManagedIdentity name).Runs Client.replica
        ⟨replica, ids, messages⟩ sent ending last →
          manager.IdentityDeletion (IdentityStep.roster steps) name sent ending := by
  obtain ⟨holds, quiet⟩ := holdsRoster_of_runs named empty calm history
  refine ⟨IdentityStep.tells_roster steps, ?_, ?_, ?_⟩
  · have decoded : Json.readAll? decode? ((manager.identityDocuments _).map Prod.snd) = _ :=
      readAll?_identityDocuments (IdentityStep.roster steps)
    have brings : Brings manager.listManagedIdentities _ _ (fun _ => none)
        ⟨replica, ids, messages⟩ _ := brings_list named named.identitiesPath_plain
      ManagedIdentity.version "managed identities" [] paged holds decoded
    refine brings.returns ?_ ⟨fun _ => rfl, quiet⟩
    intro refusal
    rw [named.ofUrl_url named.identitiesPath_plain]
    exact HoldsResources.read_ne_error holds refusal
  · intro name location sent ending last runs
    exact (after_createManagedIdentity named runs holds quiet).1
  · intro name sent ending last runs
    exact (after_deleteManagedIdentity named runs holds quiet).1

/-- A replica with no managed identity in the group of the samples. -/
def emptyIdentities : Replica :=
  (Replica.empty ⟨fun _ => "", 0⟩).withCollection
    (sampleGroup.base ++ sampleGroup.identitiesPath)

/-- The state that a creation in the group of the samples leaves. -/
def afterCreation (name location : String) (earlier : Replica) : Replica :=
  ((sampleGroup.createManagedIdentity name location).run Client.replica
    ⟨earlier, ⟨fun _ => "", 0⟩, []⟩).2.state

theorem IdentityRuns.afterCreation {start earlier : Replica} {steps : List IdentityStep}
    (before : sampleGroup.IdentityRuns start steps earlier) (name location : String) :
    sampleGroup.IdentityRuns start (steps ++ [.create name location])
      (afterCreation name location earlier) :=
  before.create (Program.runs_run _ _ _)

/-- A name that is created again keeps its place and gets its new location. -/
theorem managedIdentities_ordered_sample :
    (sampleGroup.listManagedIdentities.run Client.replica
      ⟨afterCreation "payroll-mi" " eastus" (afterCreation "billing-mi" "northeurope"
        (afterCreation " payroll-mi" "westeurope" emptyIdentities)), ⟨fun _ => "", 0⟩, []⟩).1 =
      .returned [sampleGroup.identity "payroll-mi" "eastus",
        sampleGroup.identity "billing-mi" "northeurope"] := by
  have empty : sampleGroup.HoldsRoster [] emptyIdentities :=
    .of_empty isNamed_sampleGroup.origin isNamed_sampleGroup.identitiesPath_plain _
  have untouched : sampleGroup.IdentityRuns emptyIdentities [] emptyIdentities := .start
  have history : sampleGroup.IdentityRuns emptyIdentities [.create " payroll-mi" "westeurope",
      .create "billing-mi" "northeurope", .create "payroll-mi" " eastus"] _ :=
    ((untouched.afterCreation " payroll-mi" "westeurope").afterCreation "billing-mi"
      "northeurope").afterCreation "payroll-mi" " eastus"
  have ordered := managedIdentities_ordered isNamed_sampleGroup (by decide) empty rfl history
    ⟨fun _ => "", 0⟩ []
  have told : (IdentityStep.roster [.create " payroll-mi" "westeurope",
      .create "billing-mi" "northeurope", .create "payroll-mi" " eastus"]).map
        (fun (name, location) => sampleGroup.identity name location) =
      [sampleGroup.identity "payroll-mi" "eastus",
        sampleGroup.identity "billing-mi" "northeurope"] := by decide +kernel
  rw [← told]
  exact ordered.2.1

end ResourceManager

end Provision
