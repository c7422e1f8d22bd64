import Mathlib.Logic.Function.Basic
import Provision.Proofs.BlueprintCreations

/-!
# Blueprints with and without a principal

Creations of blueprints are run one after the other, each from what the ones
before it left, and any of their requests may fail.  What is told of the
blueprints along such a history is which of them lack a principal: those whose
creation stopped between its two writes.  No later run makes up for the
principal, whatever its policy, since a blueprint that is kept is not looked at
beyond its name.
-/

namespace Provision

open Replica (Location Documents IsSegment isChild matchesCast)

theorem Text.dropStart?_shared {shared needle text : List Char} :
    dropStart? (shared ++ needle) (shared ++ text) = dropStart? needle text := by
  induction shared with
  | nil => rfl
  | cons first shared ih => simp [dropStart?, ih]

theorem Replica.append_segment_inj {path segment other : String} :
    path ++ "/" ++ segment = path ++ "/" ++ other ↔ segment = other := by
  simp [← String.toList_inj]

namespace Directory

variable {directory : Directory} {lacking : String → Prop} {earlier later replica : Replica}
  {appId : String}

/-- The base of a directory has no query and ends within a host or a segment, so that what is
written behind it leads below it. -/
structure Rooted (directory : Directory) : Prop where
  noQuery : '?' ∉ directory.base.toList
  ends : ∃ stem last, directory.base.toList = stem ++ [last] ∧ last ∉ "://".toList

namespace Rooted

theorem path_list (rooted : directory.Rooted) {list : String} (segment : IsSegment list) :
    (Location.ofUrl (directory.url list)).path =
      (Location.ofUrl directory.base).path ++ "/" ++ list := by
  obtain ⟨stem, last, base_eq, lastApart⟩ := rooted.ends
  have relative : Text.dropLeading '/' list = list := by
    rw [Text.dropLeading, List.dropWhile_eq_self_iff.mpr, String.ofList_toList]
    intro given
    simpa using ne_of_mem_of_not_mem (List.getElem_mem given) segment.noSlash
  rw [url, relative]
  refine Location.path_ofUrl_segment segment lastApart (base_eq ▸ rooted.noQuery) ?_
  rw [← base_eq, String.ofList_toList]

theorem blueprints_path (rooted : directory.Rooted) :
    directory.blueprintsLocation.path =
      (Location.ofUrl directory.base).path ++ "/" ++ "applications" :=
  (path_ofUrl_blueprints directory).trans
    (rooted.path_list ⟨by decide, by decide, by decide, by decide⟩)

theorem principals_path (rooted : directory.Rooted) :
    directory.principalsLocation.path =
      (Location.ofUrl directory.base).path ++ "/" ++ "servicePrincipals" :=
  (path_ofUrl_blueprintPrincipals directory).trans
    (rooted.path_list ⟨by decide, by decide, by decide, by decide⟩)

theorem blueprints_are_applications (rooted : directory.Rooted) :
    Text.sameIgnoringCase (Replica.lastSegment directory.blueprintsLocation.path)
      "applications" = true := by
  have path_eq : directory.blueprintsLocation.path = String.ofList
      ((Location.ofUrl directory.base).path.toList ++ '/' :: "applications".toList) := by
    rw [rooted.blueprints_path]
    simp [← String.toList_inj]
  rw [path_eq, Replica.lastSegment, Text.lastPiece_append (by decide)]
  decide

theorem principal_not_blueprint (rooted : directory.Rooted) (id : String) :
    isChild directory.blueprintsLocation.path
      (directory.principalsLocation.path ++ "/" ++ id) = false := by
  simp [isChild, rooted.blueprints_path, rooted.principals_path, Text.dropStart?_shared,
    Text.dropStart?]

theorem blueprint_not_principal (rooted : directory.Rooted) (id : String) :
    isChild directory.principalsLocation.path
      (directory.blueprintsLocation.path ++ "/" ++ id) = false := by
  simp [isChild, rooted.blueprints_path, rooted.principals_path, Text.dropStart?_shared,
    Text.dropStart?]

theorem principal_ne_blueprints (rooted : directory.Rooted) (id : String) :
    directory.principalsLocation.path ++ "/" ++ id ≠ directory.blueprintsLocation.path := by
  rw [rooted.blueprints_path, rooted.principals_path]
  intro same
  simp [← String.toList_inj] at same

end Rooted

/-- A principal of the blueprint with a client id is listed. -/
def HasPrincipal (directory : Directory) (replica : Replica) (appId : String) : Prop :=
  ∃ document ∈ replica.children directory.principalsLocation,
    document.get? "appId" = some (.string appId)

/-- A stored document is the principal of the blueprint with a client id. -/
structure IsPrincipalOf (directory : Directory) (appId : String) (stored : String × Json) :
    Prop where
  listed : isChild directory.principalsLocation.path stored.1 = true
  typed : matchesCast directory.principalsLocation.cast stored.2 = true
  appId_eq : stored.2.get? "appId" = some (.string appId)

theorem hasPrincipal_iff : directory.HasPrincipal replica appId ↔
    ∃ stored ∈ replica.documents, directory.IsPrincipalOf appId stored := by
  simp only [HasPrincipal, Replica.children, List.mem_map, List.mem_filter, Bool.and_eq_true]
  constructor
  · rintro ⟨_, ⟨stored, ⟨stored_mem, listed, typed⟩, rfl⟩, appId_eq⟩
    exact ⟨stored, stored_mem, listed, typed, appId_eq⟩
  · rintro ⟨stored, stored_mem, listed, typed, appId_eq⟩
    exact ⟨stored.2, ⟨stored, ⟨stored_mem, listed, typed⟩, rfl⟩, appId_eq⟩

theorem hasPrincipal_append {added : String × Json}
    (documents : later.documents = earlier.documents ++ [added]) :
    directory.HasPrincipal later appId ↔
      directory.HasPrincipal earlier appId ∨ directory.IsPrincipalOf appId added := by
  simp only [hasPrincipal_iff, documents, List.mem_append, List.mem_singleton, or_and_right,
    exists_or, exists_eq_left]

/-- A stored document is the blueprint whose id is the one that was drawn at an index, and its
client id the one after it. -/
structure IsBlueprint (directory : Directory) (ids : IdSupply) (index : Nat)
    (stored : String × Json) : Prop where
  drawn : index + 1 < ids.used
  path_eq : stored.1 = directory.blueprintsLocation.path ++ "/" ++ ids.name index
  decoded : ∃ blueprint : Blueprint, decode? stored.2 = some blueprint ∧
    blueprint.id = ids.name index ∧ blueprint.appId = ids.name (index + 1)

/-- A stored document names a blueprint by a client id that was drawn, and stands at the path of an
id that was drawn. -/
structure IsPrincipal (directory : Directory) (ids : IdSupply) (stored : String × Json) :
    Prop where
  path_eq : ∃ index < ids.used,
    stored.1 = directory.principalsLocation.path ++ "/" ++ ids.name index
  appId_eq : ∃ index < ids.used, stored.2.get? "appId" = some (.string (ids.name index))

/-- What is known of the blueprints and the principals of a replica.  All of their ids were drawn
from its supply, and the blueprints without a principal are those whose ids are `lacking`. -/
structure Ledger (directory : Directory) (lacking : String → Prop) (replica : Replica) :
    Prop where
  distinct : Function.Injective replica.ids.name
  segments : ∀ index, IsSegment (replica.ids.name index)
  noList : replica.document? (directory.url blueprintsPath) = none
  blueprints : ∀ stored ∈ replica.documents,
    isChild directory.blueprintsLocation.path stored.1 = true →
      ∃ index, directory.IsBlueprint replica.ids index stored ∧
        (directory.HasPrincipal replica (replica.ids.name (index + 1)) ↔
          ¬lacking (replica.ids.name index))
  principals : ∀ stored ∈ replica.documents,
    isChild directory.principalsLocation.path stored.1 = true →
      directory.IsPrincipal replica.ids stored
  lackingDrawn : ∀ id, lacking id → ∃ index < replica.ids.used, id = replica.ids.name index

theorem IsBlueprint.of_ids {ids more : IdSupply} {index : Nat} {stored : String × Json}
    (isBlueprint : directory.IsBlueprint ids index stored) (name_eq : more.name = ids.name)
    (used_le : ids.used ≤ more.used) : directory.IsBlueprint more index stored := by
  rcases isBlueprint with ⟨drawn, path_eq, decoded⟩
  exact ⟨by omega, by rwa [name_eq], by rwa [name_eq]⟩

theorem IsPrincipal.of_ids {ids more : IdSupply} {stored : String × Json}
    (isPrincipal : directory.IsPrincipal ids stored) (name_eq : more.name = ids.name)
    (used_le : ids.used ≤ more.used) : directory.IsPrincipal more stored := by
  obtain ⟨⟨index, drawn, path_eq⟩, ⟨other, otherDrawn, appId_eq⟩⟩ := isPrincipal
  exact ⟨⟨index, by omega, by rwa [name_eq]⟩, ⟨other, by omega, by rwa [name_eq]⟩⟩

namespace Ledger

theorem of_unchanged (ledger : directory.Ledger lacking earlier)
    (documents : later.documents = earlier.documents) (ids : later.ids = earlier.ids) :
    directory.Ledger lacking later := by
  have same (appId : String) :
      directory.HasPrincipal later appId ↔ directory.HasPrincipal earlier appId := by
    simp only [hasPrincipal_iff, documents]
  refine ⟨ids ▸ ledger.distinct, ids ▸ ledger.segments, ?_, ?_, ?_, ids ▸ ledger.lackingDrawn⟩
  · rw [Replica.document?, documents]
    exact ledger.noList
  · simp only [documents, ids, same]
    exact ledger.blueprints
  · rw [documents, ids]
    exact ledger.principals

theorem congr {absent : String → Prop} (ledger : directory.Ledger lacking replica)
    (same : ∀ id, lacking id ↔ absent id) : directory.Ledger absent replica := by
  obtain rfl : lacking = absent := funext fun id => propext (same id)
  exact ledger

/-- A listed blueprint has a principal unless it is among those without one. -/
theorem hasPrincipal_iff_not_lacking (ledger : directory.Ledger lacking replica)
    {stored : String × Json} {blueprint : Blueprint} (stored_mem : stored ∈ replica.documents)
    (listed : isChild directory.blueprintsLocation.path stored.1 = true)
    (decoded : decode? stored.2 = some blueprint) :
    directory.HasPrincipal replica blueprint.appId ↔ ¬lacking blueprint.id := by
  obtain ⟨index, ⟨-, -, found, foundDecoded, id_eq, appId_eq⟩, told⟩ :=
    ledger.blueprints stored stored_mem listed
  obtain rfl : blueprint = found := Option.some.inj (decoded.symm.trans foundDecoded)
  rw [id_eq, appId_eq]
  exact told

/-- An id that was not drawn yet is the client id of no blueprint with a principal. -/
theorem not_hasPrincipal (ledger : directory.Ledger lacking replica) {index : Nat}
    (undrawn : replica.ids.used ≤ index) :
    ¬directory.HasPrincipal replica (replica.ids.name index) := by
  rw [hasPrincipal_iff]
  rintro ⟨stored, stored_mem, isOf⟩
  obtain ⟨-, ⟨drawn, drawn_lt, appId_eq⟩⟩ := ledger.principals stored stored_mem isOf.listed
  have same : replica.ids.name drawn = replica.ids.name index := by
    simpa [appId_eq] using isOf.appId_eq
  have sameIndex := ledger.distinct same
  omega

/-- An id that was not drawn yet is that of no blueprint without a principal. -/
theorem not_lacking (ledger : directory.Ledger lacking replica) {index : Nat}
    (undrawn : replica.ids.used ≤ index) : ¬lacking (replica.ids.name index) := by
  intro lacks
  obtain ⟨drawn, drawn_lt, same⟩ := ledger.lackingDrawn _ lacks
  have sameIndex := ledger.distinct same
  omega

/-- One more document is stored under ids that may be drawn for it. -/
theorem append {added : String × Json} {absent : String → Prop}
    (ledger : directory.Ledger lacking earlier) (name_eq : later.ids.name = earlier.ids.name)
    (used_le : earlier.ids.used ≤ later.ids.used)
    (documents : later.documents = earlier.documents ++ [added])
    (notList : added.1 ≠ directory.blueprintsLocation.path)
    (isBlueprint : isChild directory.blueprintsLocation.path added.1 = true →
      ∃ index, directory.IsBlueprint later.ids index added ∧
        (directory.HasPrincipal later (later.ids.name (index + 1)) ↔
          ¬absent (later.ids.name index)))
    (isPrincipal : isChild directory.principalsLocation.path added.1 = true →
      directory.IsPrincipal later.ids added)
    (told : ∀ index, index + 1 < earlier.ids.used →
      (directory.HasPrincipal earlier (earlier.ids.name (index + 1)) ↔
        ¬lacking (earlier.ids.name index)) →
      (directory.HasPrincipal later (earlier.ids.name (index + 1)) ↔
        ¬absent (earlier.ids.name index)))
    (absentDrawn : ∀ id, absent id → ∃ index < later.ids.used, id = later.ids.name index) :
    directory.Ledger absent later := by
  refine ⟨name_eq ▸ ledger.distinct, name_eq ▸ ledger.segments, ?_, ?_, ?_, absentDrawn⟩
  · have noList := ledger.noList
    simp only [Replica.document?, Documents.find?, Members.find?_eq_none_iff, documents,
      List.mem_append, List.mem_singleton] at noList ⊢
    rintro stored (stored_mem | rfl)
    · exact noList stored stored_mem
    · exact notList
  · rw [documents]
    intro stored stored_mem listed
    rcases List.mem_append.mp stored_mem with earlier_mem | added_mem
    · obtain ⟨index, isStored, earlierTold⟩ := ledger.blueprints stored earlier_mem listed
      refine ⟨index, isStored.of_ids name_eq used_le, ?_⟩
      rw [name_eq]
      exact told index isStored.drawn earlierTold
    · obtain rfl := List.mem_singleton.mp added_mem
      exact isBlueprint listed
  · rw [documents]
    intro stored stored_mem listed
    rcases List.mem_append.mp stored_mem with earlier_mem | added_mem
    · exact (ledger.principals stored earlier_mem listed).of_ids name_eq used_le
    · obtain rfl := List.mem_singleton.mp added_mem
      exact isPrincipal listed

/-- The next id is free in a list whose documents all stand at ids that were drawn. -/
theorem nextId_unused (ledger : directory.Ledger lacking replica) {path : String}
    (drawn : ∀ stored ∈ replica.documents, isChild path stored.1 = true →
      ∃ index < replica.ids.used, stored.1 = path ++ "/" ++ replica.ids.name index) :
    replica.documents.has (path ++ "/" ++ replica.ids.current) = false := by
  rw [Documents.has_eq_false_iff, List.mem_map]
  rintro ⟨stored, stored_mem, path_eq⟩
  have listed : isChild path stored.1 = true := by
    rw [path_eq]
    exact Replica.isChild_segment (ledger.segments replica.ids.used) path
  obtain ⟨index, index_lt, stored_eq⟩ := drawn stored stored_mem listed
  have same := Replica.append_segment_inj.mp (stored_eq.symm.trans path_eq)
  have sameIndex := ledger.distinct same
  omega

/-- A new blueprint lacks a principal, and changes nothing for the others. -/
theorem addBlueprint (ledger : directory.Ledger lacking earlier) (rooted : directory.Rooted)
    {blueprint : Blueprint} (adds : directory.AddsBlueprint blueprint earlier later) :
    directory.Ledger (fun id => lacking id ∨ id = blueprint.id) later := by
  have name_eq := adds.name_eq
  have used_eq := adds.used_eq
  obtain ⟨id_eq, appId_eq, -, document, decoded, stores⟩ := adds
  rw [id_eq] at stores
  have unused : earlier.documents.has
      (directory.blueprintsLocation.path ++ "/" ++ earlier.ids.current) = false := by
    apply ledger.nextId_unused
    intro stored stored_mem listed
    obtain ⟨index, isBlueprint, -⟩ := ledger.blueprints stored stored_mem listed
    exact ⟨index, Nat.lt_of_succ_lt isBlueprint.drawn, isBlueprint.path_eq⟩
  have documents := stores.trans (Documents.store_of_has_eq_false unused)
  have unlisted := rooted.blueprint_not_principal earlier.ids.current
  -- no principal comes, so each blueprint has one if it had one
  have same (appId : String) :
      directory.HasPrincipal later appId ↔ directory.HasPrincipal earlier appId := by
    rw [hasPrincipal_append documents, or_iff_left]
    intro isOf
    simpa [unlisted] using isOf.listed
  refine ledger.append name_eq (by omega) documents ?_ ?_ ?_ ?_ ?_
  · intro same
    simp [← String.toList_inj] at same
  · intro listed
    refine ⟨earlier.ids.used, ⟨by omega, by rw [name_eq]; rfl, blueprint, decoded, ?_, ?_⟩, ?_⟩
    · rw [name_eq, id_eq]
      rfl
    · rw [name_eq, appId_eq]
      rfl
    · rw [name_eq, same, id_eq]
      simpa [IdSupply.current] using ledger.not_hasPrincipal (Nat.le_succ _)
  · intro listed
    simp [unlisted] at listed
  · intro index drawn told
    rw [same, told, not_or, id_eq]
    refine (and_iff_left ?_).symm
    intro isNew
    have sameIndex := ledger.distinct isNew
    omega
  · rintro id (lacks | rfl)
    · obtain ⟨index, drawn, rfl⟩ := ledger.lackingDrawn id lacks
      exact ⟨index, by omega, by rw [name_eq]⟩
    · exact ⟨earlier.ids.used, by omega, by rw [name_eq, id_eq]; rfl⟩

/-- A new principal is that of one blueprint, and changes nothing for the others. -/
theorem addPrincipal (ledger : directory.Ledger lacking earlier) (rooted : directory.Rooted)
    {index : Nat} (drawn : index + 1 < earlier.ids.used)
    (adds : directory.AddsPrincipal (earlier.ids.name (index + 1)) earlier later) :
    directory.Ledger (fun id => lacking id ∧ id ≠ earlier.ids.name index) later := by
  obtain ⟨ids_eq, document, appId_eq, typed, stores⟩ := adds
  have name_eq : later.ids.name = earlier.ids.name := by rw [ids_eq]; rfl
  have used_eq : later.ids.used = earlier.ids.used + 1 := by rw [ids_eq]; rfl
  have unused : earlier.documents.has
      (directory.principalsLocation.path ++ "/" ++ earlier.ids.current) = false := by
    apply ledger.nextId_unused
    intro stored stored_mem listed
    exact (ledger.principals stored stored_mem listed).path_eq
  have documents := stores.trans (Documents.store_of_has_eq_false unused)
  have unlisted := rooted.principal_not_blueprint earlier.ids.current
  have listed := Replica.isChild_segment (ledger.segments earlier.ids.used)
    directory.principalsLocation.path
  refine ledger.append name_eq (by omega) documents ?_ ?_ ?_ ?_ ?_
  · exact rooted.principal_ne_blueprints _
  · intro isListed
    simp [unlisted] at isListed
  · intro _
    exact ⟨⟨earlier.ids.used, by omega, by rw [name_eq]; rfl⟩,
      ⟨index + 1, by omega, by rw [name_eq]; exact appId_eq⟩⟩
  · intro other otherDrawn told
    have isOf : directory.IsPrincipalOf (earlier.ids.name (other + 1))
        (directory.principalsLocation.path ++ "/" ++ earlier.ids.current, document) ↔
          other = index := by
      constructor
      · intro isOf
        have same : earlier.ids.name (index + 1) = earlier.ids.name (other + 1) := by
          simpa [appId_eq] using isOf.appId_eq
        have sameIndex := ledger.distinct same
        omega
      · rintro rfl
        exact ⟨listed, typed, appId_eq⟩
    rw [hasPrincipal_append documents, told, isOf, not_and_or, not_not, ledger.distinct.eq_iff]
  · rintro id ⟨lacks, -⟩
    obtain ⟨other, otherDrawn, rfl⟩ := ledger.lackingDrawn id lacks
    exact ⟨other, by omega, by rw [name_eq]⟩

/-- What a creation comes to decides which blueprints lack a principal after it. -/
theorem of_outcome (ledger : directory.Ledger lacking earlier) (rooted : directory.Rooted)
    {ending : Ending OperationError BlueprintCreated}
    (outcome : directory.CreationOutcome earlier ending later) :
    directory.Ledger (fun id => lacking id ∨ Strands ending id) later := by
  cases outcome with
  | stopped documents ids _ notStranding =>
      apply (ledger.of_unchanged documents ids).congr
      intro id
      simp [notStranding id]
  | kept documents ids stored listed decoded =>
      apply (ledger.of_unchanged documents ids).congr
      intro id
      simp [Strands]
  | @created blueprint _ _ middle _ first second =>
      have used_eq := first.used_eq
      have id_eq : blueprint.id = middle.ids.name earlier.ids.used := by
        rw [first.name_eq, first.id_eq]
        rfl
      have appId_eq : blueprint.appId = middle.ids.name (earlier.ids.used + 1) := by
        rw [first.name_eq, first.appId_eq]
        rfl
      rw [appId_eq] at second
      have added := (ledger.addBlueprint rooted first).addPrincipal rooted (by omega) second
      apply added.congr
      intro id
      have notLacking : ¬lacking blueprint.id := first.id_eq ▸ ledger.not_lacking le_rfl
      rw [← id_eq]
      by_cases isNew : id = blueprint.id
      · simp [isNew, notLacking, Strands]
      · simp [isNew, Strands]
  | @halfway blueprint _ _ middle _ first documents ids =>
      apply ((ledger.addBlueprint rooted first).of_unchanged documents ids).congr
      intro id
      simp [Strands, eq_comm]

end Ledger

/-- Nothing is stored at the list of the blueprints, among the applications or among the service
principals. -/
structure Unfilled (directory : Directory) (replica : Replica) : Prop where
  noList : replica.document? (directory.url blueprintsPath) = none
  noApplications : ∀ stored ∈ replica.documents,
    isChild directory.blueprintsLocation.path stored.1 = false
  noServicePrincipals : ∀ stored ∈ replica.documents,
    isChild directory.principalsLocation.path stored.1 = false

/-- Creations of blueprints, each from what the ones before it left, with their endings in order.
Any request of a run may fail, before it reaches the server or there. -/
inductive Creations (directory : Directory) (start : Replica) :
    List (Ending OperationError BlueprintCreated) → Replica → Prop where
  | start : Creations directory start [] start
  | run {endings : List (Ending OperationError BlueprintCreated)} {earlier : Replica}
      {requests : List Request} {failures : List Failure} {ids : IdSupply} {messages : List String}
      {displayName : String} {sponsorIds ownerIds : List String} {policy : Namesake.Policy}
      {schedule : Nat → Option RemoteError} {sent : List Exchange}
      {ending : Ending OperationError BlueprintCreated} {later : Run Replica}
      (before : Creations directory start endings earlier)
      (runs : (directory.createBlueprint displayName sponsorIds ownerIds policy).Runs
        (Client.interrupted schedule) ⟨{ earlier with requests, failures }, ids, messages⟩ sent
        ending later) :
      Creations directory start (endings ++ [ending]) later.state

theorem ledger_of_creations {start : Replica}
    {endings : List (Ending OperationError BlueprintCreated)} (rooted : directory.Rooted)
    (unfilled : directory.Unfilled start) (distinct : Function.Injective start.ids.name)
    (segments : ∀ index, IsSegment (start.ids.name index))
    (history : directory.Creations start endings replica) :
    directory.Ledger (fun id => ∃ ending ∈ endings, Strands ending id) replica := by
  induction history with
  | start =>
      refine ⟨distinct, segments, unfilled.noList, ?_, ?_, by simp⟩
      · intro stored stored_mem listed
        simp [unfilled.noApplications stored stored_mem] at listed
      · intro stored stored_mem listed
        simp [unfilled.noServicePrincipals stored stored_mem] at listed
  | @run endings earlier requests failures _ _ _ _ _ _ _ _ ending later before runs ih =>
      let now : Replica := { earlier with requests, failures }
      have ledger : directory.Ledger _ now := ih.of_unchanged rfl rfl
      have outcome := creationOutcome_of_runs rooted.blueprints_are_applications ledger.noList runs
      apply (ledger.of_outcome rooted outcome).congr
      intro id
      simp [or_and_right, exists_or]

theorem hasPrincipal_of_adds (segment : IsSegment earlier.ids.current)
    (adds : directory.AddsPrincipal appId earlier later) : directory.HasPrincipal later appId := by
  obtain ⟨-, document, appId_eq, typed, stores⟩ := adds
  have stored_mem := Members.mem_of_find? (Documents.find?_store_self : (earlier.documents.store
    (directory.principalsLocation.path ++ "/" ++ earlier.ids.current) document).find? _ = _)
  rw [← stores] at stored_mem
  exact hasPrincipal_iff.mpr ⟨_, stored_mem, Replica.isChild_segment segment _, typed, appId_eq⟩

/-- A creation that returns has created its blueprint with a principal, or it has kept one that has a
principal unless it lacked it. -/
theorem Ledger.hasPrincipal_iff_of_outcome {lacking : String → Prop} {created : BlueprintCreated}
    (ledger : directory.Ledger lacking earlier)
    (outcome : directory.CreationOutcome earlier (.returned created) later) :
    (created.reused = false → directory.HasPrincipal later created.appId) ∧
      (directory.HasPrincipal later created.appId ↔ ¬lacking created.objectId) := by
  generalize ended : Ending.returned created = ending at outcome
  cases outcome with
  | stopped _ _ notReturned => exact absurd ended.symm (notReturned created)
  | halfway => cases ended
  | kept documents ids stored listed decoded =>
      obtain rfl := Ending.returned.inj ended
      have kept := ledger.of_unchanged documents ids
      rw [← documents] at stored
      exact ⟨by simp, kept.hasPrincipal_iff_not_lacking stored listed decoded⟩
  | @created blueprint _ _ middle _ first second =>
      obtain rfl := Ending.returned.inj ended
      have segment : IsSegment middle.ids.current := by
        rw [first.ids_eq]
        exact ledger.segments _
      have has := hasPrincipal_of_adds segment second
      refine ⟨fun _ => has, iff_of_true has ?_⟩
      rw [first.id_eq]
      exact ledger.not_lacking le_rfl

/-- Whatever was created before and wherever it failed, a creation that returns has created its
blueprint with a principal, or it has kept one.  A blueprint that is kept has a principal just when
no earlier run stopped between the two writes of its creation. -/
theorem createBlueprint_has_principal_iff {start : Replica}
    {endings : List (Ending OperationError BlueprintCreated)} {requests : List Request}
    {failures : List Failure} {ids : IdSupply} {messages : List String} {displayName : String}
    {sponsorIds ownerIds : List String} {policy : Namesake.Policy}
    {schedule : Nat → Option RemoteError} {sent : List Exchange} {created : BlueprintCreated}
    {last : Run Replica} (rooted : directory.Rooted) (unfilled : directory.Unfilled start)
    (distinct : Function.Injective start.ids.name)
    (segments : ∀ index, IsSegment (start.ids.name index))
    (history : directory.Creations start endings earlier)
    (runs : (directory.createBlueprint displayName sponsorIds ownerIds policy).Runs
      (Client.interrupted schedule) ⟨{ earlier with requests, failures }, ids, messages⟩ sent
      (.returned created) last) :
    (created.reused = false → directory.HasPrincipal last.state created.appId) ∧
      (directory.HasPrincipal last.state created.appId ↔
        ∀ ending ∈ endings, ¬Strands ending created.objectId) := by
  let now : Replica := { earlier with requests, failures }
  have ledger : directory.Ledger (fun id => ∃ ending ∈ endings, Strands ending id) now :=
    (ledger_of_creations rooted unfilled distinct segments history).of_unchanged rfl rfl
  have outcome := creationOutcome_of_runs rooted.blueprints_are_applications ledger.noList runs
  simpa using ledger.hasPrincipal_iff_of_outcome outcome

/-- The ids of the samples: "i", "ii" and so on. -/
def countedIds : IdSupply := ⟨fun index => String.ofList (List.replicate (index + 1) 'i'), 0⟩

/-- A replica whose lists of applications and service principals are empty. -/
def emptyDirectory : Replica :=
  ((Replica.empty countedIds).withCollection "https://directory/applications").withCollection
    "https://directory/servicePrincipals"

theorem countedIds_injective : Function.Injective countedIds.name := by
  intro index other same
  simpa [countedIds, ← String.toList_inj, List.replicate_inj] using same

theorem isSegment_countedIds (index : Nat) : IsSegment (countedIds.name index) := by
  refine ⟨?_, ?_, ?_, ?_⟩
  · simp [countedIds, ← String.toList_inj]
  · simp [countedIds]
  · simp [countedIds]
  · simp [countedIds, Replica.isCast, List.replicate_succ, Text.lowerAscii, Text.dropStart?]

/-- The directory of the samples. -/
def sampleDirectory : Directory := ⟨"https://directory", 1⟩

/-- A creation of the blueprint of the samples. -/
def payrollCreation (policy : Namesake.Policy) : Program OperationError BlueprintCreated :=
  sampleDirectory.createBlueprint "Payroll" ["user-1"] [] policy

/-- The first creation of the samples, which is refused its second write. -/
def stoppedCreation : Ending OperationError BlueprintCreated × Run Replica :=
  (payrollCreation .fail).run (Client.interrupted fun _ => none)
    ⟨emptyDirectory.withFailure ⟨.post, "servicePrincipals", 0, 503, "busy"⟩, countedIds, []⟩

theorem strands_stoppedCreation : Strands stoppedCreation.1 "i" := ⟨_, _, rfl, rfl⟩

theorem rooted_sampleDirectory : sampleDirectory.Rooted :=
  ⟨by decide, "https://director".toList, 'y', by decide, by decide⟩

theorem unfilled_emptyDirectory : sampleDirectory.Unfilled emptyDirectory :=
  ⟨rfl, List.forall_mem_nil _, List.forall_mem_nil _⟩

theorem creations_stoppedCreation :
    sampleDirectory.Creations emptyDirectory [stoppedCreation.1] stoppedCreation.2.state :=
  .run .start (Program.runs_run _ _ _)

/-- A first creation stops at its second write, and a second one creates another blueprint. -/
theorem createBlueprint_has_principal_iff_sample :
    sampleDirectory.Creations emptyDirectory [stoppedCreation.1] stoppedCreation.2.state ∧
      Strands stoppedCreation.1 "i" ∧
      ∃ sent last,
        (payrollCreation .createAnyway).Runs (Client.interrupted fun _ => none)
          ⟨stoppedCreation.2.state, countedIds, []⟩ sent
          (.returned ⟨"iii", "iiii", "Payroll", some "iiiii", false⟩) last ∧
        sampleDirectory.HasPrincipal last.state "iiii" ∧ ¬Strands stoppedCreation.1 "iii" := by
  have runs : (payrollCreation .createAnyway).Runs (Client.interrupted fun _ => none)
      ⟨stoppedCreation.2.state, countedIds, []⟩ _
      (.returned ⟨"iii", "iiii", "Payroll", some "iiiii", false⟩) _ :=
    Program.runs_of_ending rfl
  obtain ⟨has, has_iff⟩ := createBlueprint_has_principal_iff rooted_sampleDirectory
    unfilled_emptyDirectory countedIds_injective isSegment_countedIds creations_stoppedCreation runs
  exact ⟨creations_stoppedCreation, strands_stoppedCreation, _, _, runs, has rfl,
    has_iff.mp (has rfl) _ (by simp)⟩

/-- A creation that stopped at its second write is run again, and the blueprint is kept without a
principal. -/
theorem createBlueprint_keeps_without_principal :
    let again := (payrollCreation .skip).run Client.replica
      ⟨stoppedCreation.2.state, countedIds, []⟩
    Strands stoppedCreation.1 "i" ∧
      again.1 = .returned ⟨"i", "ii", "Payroll", none, true⟩ ∧
      ¬sampleDirectory.HasPrincipal again.2.state "ii" := by
  intro again
  have kept : again.1 = .returned ⟨"i", "ii", "Payroll", none, true⟩ := rfl
  have runs : (payrollCreation .skip).Runs (Client.interrupted fun _ => none)
      ⟨stoppedCreation.2.state, countedIds, []⟩ _
      (.returned ⟨"i", "ii", "Payroll", none, true⟩) again.2 := Program.runs_of_ending kept
  have ledger := ledger_of_creations rooted_sampleDirectory unfilled_emptyDirectory
    countedIds_injective isSegment_countedIds creations_stoppedCreation
  have outcome := creationOutcome_of_runs rooted_sampleDirectory.blueprints_are_applications
    (by exact ledger.noList) runs
  refine ⟨strands_stoppedCreation, kept, fun has => ?_⟩
  exact (ledger.hasPrincipal_iff_of_outcome outcome).2.mp has
    ⟨_, List.mem_singleton_self _, strands_stoppedCreation⟩

end Directory

end Provision
