import Provision.Proofs.Arguments
import Provision.Proofs.Listings
import Provision.Proofs.NarrowedLists

/-!
# Namesakes

Names are taken for the same whatever blanks stand around them and whatever the
case of their letters.  A blueprint is created, or an agent identity of a
blueprint, only after a list that is narrowed to its type has shown no namesake,
unless the policy is to create one anyway.  The list shows every document that
such a creation stores, so without that policy no namesakes ever come about,
wherever the runs fail.
-/

namespace Provision

open Replica (Documents Location IsSegment matchesCast)

theorem Text.sameIgnoringCase_iff {left right : String} : sameIgnoringCase left right = true ↔
    left.toList.map lowerAscii = right.toList.map lowerAscii := decide_eq_true_iff

theorem Text.sameIgnoringCase_comm (left right : String) :
    sameIgnoringCase left right = sameIgnoringCase right left := by
  rw [Bool.eq_iff_iff, sameIgnoringCase_iff, sameIgnoringCase_iff, eq_comm]

theorem sameName_comm (left right : String) : sameName left right = sameName right left :=
  Text.sameIgnoringCase_comm _ _

/-- Two names that are taken for a third one are taken for each other. -/
theorem sameName_of_both {left right name : String} (isLeft : sameName left name = true)
    (isRight : sameName right name = true) : sameName left right = true := by
  rw [sameName, Text.sameIgnoringCase_iff] at *
  exact isLeft.trans isRight.symm

theorem sameName_trim (left name : String) :
    sameName left (Text.trim name) = sameName left name := by
  rw [sameName, Text.trim_trim, sameName]

/-- Whether two blueprints have names that are taken for the same. -/
def Blueprint.isNamesake (blueprint other : Blueprint) : Bool :=
  sameName blueprint.displayName other.displayName

/-- Whether two agent identities of one blueprint have names that are taken for the same. -/
def AgentIdentity.isNamesake (identity other : AgentIdentity) : Bool :=
  identity.blueprintId.any other.belongsTo && sameName identity.displayName other.displayName

theorem Blueprint.isNamesake_comm (blueprint other : Blueprint) :
    blueprint.isNamesake other = other.isNamesake blueprint := sameName_comm _ _

theorem AgentIdentity.isNamesake_comm (identity other : AgentIdentity) :
    identity.isNamesake other = other.isNamesake identity := by
  rw [isNamesake, isNamesake, sameName_comm]
  congr 1
  cases identity with
  | mk _ _ _ left =>
      cases other with
      | mk _ _ _ right =>
          cases left <;> cases right <;> simp [belongsTo, Text.sameIgnoringCase_comm]

/-- Two agent identities of a third blueprint are of one blueprint. -/
theorem AgentIdentity.shareBlueprint {identity other : AgentIdentity} {blueprintAppId : String}
    (isOf : identity.belongsTo blueprintAppId = true)
    (otherIsOf : other.belongsTo blueprintAppId = true) :
    identity.blueprintId.any other.belongsTo = true := by
  simp only [belongsTo, Option.any_eq_true, Text.sameIgnoringCase_iff] at *
  obtain ⟨left, left_eq, leftSame⟩ := isOf
  obtain ⟨right, right_eq, rightSame⟩ := otherIsOf
  exact ⟨left, left_eq, right, right_eq, rightSame.trans leftSame.symm⟩

/-- The documents of a list can all be read, and no two of them are taken for the same. -/
structure KeptApart {Element : Type} [Record Element] (same : Element → Element → Bool)
    (documents : List Json) : Prop where
  decodes : ∀ document ∈ documents, ∃ element : Element, decode? document = some element
  apart : (documents.filterMap decode?).Pairwise fun left right => same left right = false

namespace KeptApart

variable {Element : Type} [Record Element] {same : Element → Element → Bool} {element : Element}
  {document : Json} {documents others before after : List Json} {earlier later : Replica}
  {path : String} {location : Location}

theorem sublist (kept : KeptApart same documents) (fewer : others.Sublist documents) :
    KeptApart same others :=
  ⟨fun document other_mem => kept.decodes document (fewer.subset other_mem),
    kept.apart.sublist (fewer.filterMap decode?)⟩

theorem insert (comm : ∀ left right, same left right = same right left)
    (kept : KeptApart same (before ++ after)) (decoded : decode? document = some element)
    (new : ∀ other ∈ (before ++ after).filterMap decode?, same other element = false) :
    KeptApart same (before ++ document :: after) := by
  constructor
  · intro other other_mem
    rcases List.mem_append.mp other_mem with before_mem | after_mem
    · exact kept.decodes other (List.mem_append_left after before_mem)
    · rcases List.mem_cons.mp after_mem with rfl | after_mem
      · exact ⟨element, decoded⟩
      · exact kept.decodes other (List.mem_append_right before after_mem)
  · have symmetric : ∀ {left right : Element}, same left right = false →
        same right left = false := by
      intro left right apart
      rwa [comm]
    have split : (before ++ document :: after).filterMap decode? =
        before.filterMap decode? ++ element :: after.filterMap decode? := by
      simp [decoded]
    have apart := kept.apart
    rw [List.filterMap_append] at apart new
    rw [split, List.pairwise_middle symmetric, List.pairwise_cons]
    exact ⟨fun other other_mem => symmetric (new other other_mem), apart⟩

/-- A document that is stored is read and has no namesake on the lists that it joins. -/
theorem children_store (comm : ∀ left right, same left right = same right left)
    (kept : KeptApart same (earlier.children location))
    (stores : later.documents = earlier.documents.store path document)
    (new : matchesCast location.cast document = true → ∃ element : Element,
      decode? document = some element ∧
        ∀ other ∈ (earlier.children location).filterMap decode?, same other element = false) :
    KeptApart same (later.children location) := by
  obtain ⟨before, after, fewer, children_eq⟩ := Replica.exists_children_store stores location
  rcases children_eq with unlisted | ⟨isType, listed⟩
  · rw [unlisted]
    exact kept.sublist fewer
  · obtain ⟨element, decoded, isNew⟩ := new isType
    rw [listed]
    apply (kept.sublist fewer).insert comm decoded
    intro other other_mem
    exact isNew other ((fewer.filterMap decode?).subset other_mem)

theorem readAll?_eq (kept : KeptApart same documents) :
    Json.readAll? (decode? : Json → Option Element) documents =
      some (documents.filterMap decode?) := by
  have decodes := kept.decodes
  clear kept
  induction documents with
  | nil => rfl
  | cons document rest ih =>
      obtain ⟨element, decoded⟩ := decodes document (by simp)
      have restRead := ih fun other rest_mem => decodes other (List.mem_cons_of_mem _ rest_mem)
      simp [Json.readAll?, decoded, restRead]

/-- Of elements that would all be taken for the same there is at most one. -/
theorem length_filter_le_one {test : Element → Bool} (kept : KeptApart same documents)
    (all : ∀ left right, test left = true → test right = true → same left right = true) :
    ((documents.filterMap decode?).filter test).length ≤ 1 := by
  have apart := kept.apart.sublist (List.filter_sublist (p := test))
  cases filtered : (documents.filterMap decode?).filter test with
  | nil => simp
  | cons first rest =>
      cases rest with
      | nil => simp
      | cons second others =>
          rw [filtered] at apart
          have different := List.rel_of_pairwise_cons apart (by simp : second ∈ second :: others)
          have passes : ∀ element ∈ first :: second :: others, test element = true := by
            intro element element_mem
            rw [← filtered] at element_mem
            exact (List.mem_filter.mp element_mem).2
          simp [all first second (passes _ (by simp)) (passes _ (by simp))] at different

end KeptApart

namespace Directory

/-- The documents of the blueprints that a replica holds, in order. -/
def blueprintDocuments (directory : Directory) (replica : Replica) : List Json :=
  replica.children ⟨directory.applicationsPath, some "agentIdentityBlueprint"⟩

/-- The documents of the agent identities that a replica holds, in order. -/
def agentIdentityDocuments (directory : Directory) (replica : Replica) : List Json :=
  replica.children ⟨directory.servicePrincipalsPath, some "agentIdentity"⟩

/-- The blueprints that a replica holds, in order. -/
def blueprints (directory : Directory) (replica : Replica) : List Blueprint :=
  (directory.blueprintDocuments replica).filterMap decode?

/-- The agent identities that a replica holds, in order. -/
def agentIdentities (directory : Directory) (replica : Replica) : List AgentIdentity :=
  (directory.agentIdentityDocuments replica).filterMap decode?

/-- Nothing is stored at the two collections themselves, all blueprints and agent identities can be
read, and there are no namesakes among them. -/
structure NoNamesakes (directory : Directory) (replica : Replica) : Prop where
  noApplication : replica.documents.find? directory.applicationsPath = none
  noServicePrincipal : replica.documents.find? directory.servicePrincipalsPath = none
  blueprints : KeptApart Blueprint.isNamesake (directory.blueprintDocuments replica)
  agentIdentities :
    KeptApart AgentIdentity.isNamesake (directory.agentIdentityDocuments replica)

variable {directory : Directory} {earlier later : Replica} {path kind id : String}
  {document : Json}

namespace NoNamesakes

theorem of_fewer (noNamesakes : directory.NoNamesakes earlier)
    (fewer : later.documents.Sublist earlier.documents) : directory.NoNamesakes later := by
  have stillNone {path : String} (absent : earlier.documents.find? path = none) :
      later.documents.find? path = none := by
    rw [Documents.find?, Members.find?_eq_none_iff] at absent ⊢
    exact fun stored stored_mem => absent stored (fewer.subset stored_mem)
  exact ⟨stillNone noNamesakes.noApplication, stillNone noNamesakes.noServicePrincipal,
    noNamesakes.blueprints.sublist (Replica.children_sublist fewer _),
    noNamesakes.agentIdentities.sublist (Replica.children_sublist fewer _)⟩

theorem store (noNamesakes : directory.NoNamesakes earlier)
    (stores : later.documents = earlier.documents.store path document)
    (notApplications : path ≠ directory.applicationsPath)
    (notServicePrincipals : path ≠ directory.servicePrincipalsPath)
    (newBlueprint : matchesCast (some "agentIdentityBlueprint") document = true →
      ∃ blueprint : Blueprint, decode? document = some blueprint ∧
        ∀ other ∈ directory.blueprints earlier, other.isNamesake blueprint = false)
    (newIdentity : matchesCast (some "agentIdentity") document = true →
      ∃ identity : AgentIdentity, decode? document = some identity ∧
        ∀ other ∈ directory.agentIdentities earlier, other.isNamesake identity = false) :
    directory.NoNamesakes later := by
  refine ⟨?_, ?_, ?_, ?_⟩
  · rw [stores, Documents.find?_store_of_ne notApplications.symm]
    exact noNamesakes.noApplication
  · rw [stores, Documents.find?_store_of_ne notServicePrincipals.symm]
    exact noNamesakes.noServicePrincipal
  · exact noNamesakes.blueprints.children_store Blueprint.isNamesake_comm stores newBlueprint
  · exact noNamesakes.agentIdentities.children_store AgentIdentity.isNamesake_comm stores
      newIdentity

end NoNamesakes

/-- A document that is marked with its type is stored under an id of a collection. -/
structure Adds (collection kind id : String) (document : Json) (earlier later : Documents) :
    Prop where
  typed : document.get? "@odata.type" = some (.string kind)
  stored : later = earlier.store (collection ++ "/" ++ id) document

/-- The type of the documents of blueprints. -/
def blueprintKind : String := "Microsoft.Graph.AgentIdentityBlueprint"

/-- The type of the documents of the principals of blueprints. -/
def principalKind : String := "#microsoft.graph.agentIdentityBlueprintPrincipal"

/-- The type of the documents of agent identities. -/
def agentIdentityKind : String := "#microsoft.graph.agentIdentity"

namespace NoNamesakes

variable (noNamesakes : directory.NoNamesakes earlier) (noQuery : '?' ∉ directory.base.toList)
include noNamesakes noQuery

/-- A blueprint without a namesake is added. -/
theorem addBlueprint {blueprint : Blueprint}
    (adds : Adds directory.applicationsPath blueprintKind id document earlier.documents
      later.documents)
    (decoded : decode? document = some blueprint)
    (new : ∀ other ∈ directory.blueprints earlier, other.isNamesake blueprint = false) :
    directory.NoNamesakes later := by
  apply noNamesakes.store adds.stored
  · intro same
    simp [← String.toList_inj] at same
  · simpa [String.append_assoc] using applications_ne_servicePrincipals noQuery ("/" ++ id) ""
  · exact fun _ => ⟨blueprint, decoded, new⟩
  · intro isIdentity
    rw [Replica.matchesCast_of_type adds.typed] at isIdentity
    exact absurd isIdentity (by decide)

/-- The principal of a blueprint is added. -/
theorem addPrincipal
    (adds : Adds directory.servicePrincipalsPath principalKind id document earlier.documents
      later.documents) :
    directory.NoNamesakes later := by
  apply noNamesakes.store adds.stored
  · simpa [String.append_assoc] using (applications_ne_servicePrincipals noQuery "" ("/" ++ id)).symm
  · intro same
    simp [← String.toList_inj] at same
  · intro isBlueprint
    rw [Replica.matchesCast_of_type adds.typed] at isBlueprint
    exact absurd isBlueprint (by decide)
  · intro isIdentity
    rw [Replica.matchesCast_of_type adds.typed] at isIdentity
    exact absurd isIdentity (by decide)

/-- An agent identity without a namesake is added. -/
theorem addAgentIdentity {identity : AgentIdentity}
    (adds : Adds directory.servicePrincipalsPath agentIdentityKind id document earlier.documents
      later.documents)
    (decoded : decode? document = some identity)
    (new : ∀ other ∈ directory.agentIdentities earlier, other.isNamesake identity = false) :
    directory.NoNamesakes later := by
  apply noNamesakes.store adds.stored
  · simpa [String.append_assoc] using (applications_ne_servicePrincipals noQuery "" ("/" ++ id)).symm
  · intro same
    simp [← String.toList_inj] at same
  · intro isBlueprint
    rw [Replica.matchesCast_of_type adds.typed] at isBlueprint
    exact absurd isBlueprint (by decide)
  · exact fun _ => ⟨identity, decoded, new⟩

end NoNamesakes

theorem ofUrl_blueprints (noQuery : '?' ∉ directory.base.toList) :
    Location.ofUrl (directory.url blueprintsPath) =
      ⟨directory.applicationsPath, some "agentIdentityBlueprint"⟩ :=
  @ofUrl_narrowed directory noQuery 'a' "pplication".toList "graph.agentIdentityBlueprint".toList
    (by decide) (by decide) (by decide) (by decide) (by decide) (by decide)

theorem ofUrl_blueprintPrincipals (noQuery : '?' ∉ directory.base.toList) :
    Location.ofUrl (directory.url blueprintPrincipalsPath) =
      ⟨directory.servicePrincipalsPath, some "agentIdentityBlueprintPrincipal"⟩ :=
  @ofUrl_narrowed directory noQuery 's' "ervicePrincipal".toList
    "graph.agentIdentityBlueprintPrincipal".toList (by decide) (by decide) (by decide) (by decide)
    (by decide) (by decide)

theorem ofUrl_agentIdentities (noQuery : '?' ∉ directory.base.toList) :
    Location.ofUrl (directory.url "servicePrincipals/microsoft.graph.agentIdentity") =
      ⟨directory.servicePrincipalsPath, some "agentIdentity"⟩ :=
  @ofUrl_narrowed directory noQuery 's' "ervicePrincipal".toList
    "microsoft.graph.agentIdentity".toList (by decide) (by decide) (by decide) (by decide)
    (by decide) (by decide)

theorem ofUrl_newAgentIdentity (noQuery : '?' ∉ directory.base.toList) :
    Location.ofUrl (directory.url "servicePrincipals/Microsoft.Graph.AgentIdentity") =
      ⟨directory.servicePrincipalsPath, some "AgentIdentity"⟩ :=
  @ofUrl_narrowed directory noQuery 's' "ervicePrincipal".toList
    "Microsoft.Graph.AgentIdentity".toList (by decide) (by decide) (by decide) (by decide)
    (by decide) (by decide)

/-- A blueprint with a certain name is stored under its id. -/
structure StoresBlueprint (directory : Directory) (name : String) (blueprint : Blueprint)
    (earlier later : Documents) : Prop where
  named : blueprint.displayName = name
  stored : ∃ document, decode? document = some blueprint ∧
    Adds directory.applicationsPath blueprintKind blueprint.id document earlier later

/-- An agent identity of a blueprint with a certain name is stored under its id. -/
structure StoresAgentIdentity (directory : Directory) (blueprintAppId name : String)
    (identity : AgentIdentity) (earlier later : Documents) : Prop where
  named : identity.displayName = name
  ofBlueprint : identity.blueprintId = some blueprintAppId
  stored : ∃ document, decode? document = some identity ∧
    Adds directory.servicePrincipalsPath agentIdentityKind identity.id document earlier later

/-- The principal of a blueprint is stored. -/
def StoresPrincipal (directory : Directory) (earlier later : Documents) : Prop :=
  ∃ id document, Adds directory.servicePrincipalsPath principalKind id document earlier later

section Posts

variable (noQuery : '?' ∉ directory.base.toList)
include noQuery

theorem storesBlueprint_of_handle_post {name : String} {sponsors owners : List String}
    (handles : earlier.handle ⟨.post, directory.url blueprintsPath,
      some (directory.blueprintBody name sponsors owners)⟩ = .ok (document, later)) :
    ∃ blueprint : Blueprint, decode? document = some blueprint ∧
      directory.StoresBlueprint name blueprint earlier.documents later.documents := by
  obtain ⟨blueprint, decoded, -, named, stored⟩ := exists_blueprint directory handles
  obtain ⟨members, body_eq, typed⟩ : ∃ members,
      directory.blueprintBody name sponsors owners = .object members ∧
        Members.find? "@odata.type" members = some (.string blueprintKind) := by
    cases owners with
    | nil =>
        refine ⟨_, rfl, ?_⟩
        simp [Json.present, Members.ofList, Members.find?_insert, blueprintKind]
    | cons owner owners =>
        refine ⟨_, rfl, ?_⟩
        simp [Json.present, Members.ofList, Members.find?_insert, blueprintKind]
  rw [body_eq] at handles
  have kind := Replica.type_of_handle_post handles
  rw [typed, Option.some_or] at kind
  rw [ofUrl_blueprints noQuery] at stored
  exact ⟨blueprint, decoded, named, document, decoded, kind, stored⟩

theorem storesPrincipal_of_handle_post {appId : String}
    (handles : earlier.handle ⟨.post, directory.url blueprintPrincipalsPath,
      some (Json.ofMembers [("appId", .string appId)])⟩ = .ok (document, later)) :
    directory.StoresPrincipal earlier.documents later.documents := by
  have kind := Replica.type_of_handle_post handles
  obtain ⟨-, -, stored⟩ := Replica.of_handle_post_identified (by rfl) (by rfl) handles
  rw [ofUrl_blueprintPrincipals noQuery] at kind stored
  exact ⟨_, document, kind, stored⟩

theorem storesAgentIdentity_of_handle_post {blueprintAppId name : String} {sponsors : List String}
    (handles : earlier.handle
      ⟨.post, directory.url "servicePrincipals/Microsoft.Graph.AgentIdentity",
        some (directory.agentIdentityBody blueprintAppId name sponsors)⟩ = .ok (document, later)) :
    ∃ identity : AgentIdentity, decode? document = some identity ∧
      directory.StoresAgentIdentity blueprintAppId name identity earlier.documents
        later.documents := by
  have kind := Replica.type_of_handle_post handles
  obtain ⟨members, body_eq, noId, noAppId, named, ofBlueprint⟩ :=
    agentIdentityBody_members directory blueprintAppId name sponsors
  rw [body_eq] at handles
  obtain ⟨created, rfl, isId, ⟨appId, isAppId⟩, others, stored⟩ :=
    Replica.of_handle_post noId noAppId handles
  rw [← others "displayName" (by decide) (by decide) (by decide)] at named
  rw [← others "agentIdentityBlueprintId" (by decide) (by decide) (by decide)] at ofBlueprint
  let identity : AgentIdentity := ⟨earlier.ids.current, appId, name, some blueprintAppId⟩
  have decoded : decode? (.object created) = some identity := by
    simp [identity, decode?, Json.fields?, Json.required, Json.optional, isId, isAppId,
      Replica.withDefault_of_find? named, ofBlueprint, Json.text?]
  rw [ofUrl_newAgentIdentity noQuery] at kind stored
  exact ⟨identity, decoded, rfl, rfl, _, decoded, kind, stored⟩

end Posts

/-- A blueprint that is stored under a plain id is listed, with or without its principal. -/
theorem StoresBlueprint.listed {name : String} {blueprint : Blueprint} {middle : Documents}
    (stores : directory.StoresBlueprint name blueprint earlier.documents middle)
    (noQuery : '?' ∉ directory.base.toList) (segment : IsSegment blueprint.id)
    (afterwards : later.documents = middle ∨ directory.StoresPrincipal middle later.documents) :
    blueprint ∈ directory.blueprints later := by
  obtain ⟨-, document, decoded, typed, stored⟩ := stores
  have isType : matchesCast (some "agentIdentityBlueprint") document = true := by
    rw [Replica.matchesCast_of_type typed]
    decide
  have found : later.documents.find? (directory.applicationsPath ++ "/" ++ blueprint.id) =
      some document := by
    rcases afterwards with unchanged | ⟨id, principal, -, principalStored⟩
    · rw [unchanged, stored]
      exact Documents.find?_store_self
    · have apart : directory.applicationsPath ++ "/" ++ blueprint.id ≠
          directory.servicePrincipalsPath ++ "/" ++ id := by
        simpa only [String.append_assoc] using applications_ne_servicePrincipals noQuery _ _
      rw [principalStored, Documents.find?_store_of_ne apart, stored]
      exact Documents.find?_store_self
  have listed : document ∈ directory.blueprintDocuments later :=
    Replica.mem_children_store segment isType found
  exact List.mem_filterMap.mpr ⟨document, listed, decoded⟩

/-- An agent identity that is stored under a plain id is listed. -/
theorem StoresAgentIdentity.listed {blueprintAppId name : String} {identity : AgentIdentity}
    (stores : directory.StoresAgentIdentity blueprintAppId name identity earlier.documents
      later.documents)
    (segment : IsSegment identity.id) : identity ∈ directory.agentIdentities later := by
  obtain ⟨-, -, document, decoded, typed, stored⟩ := stores
  have isType : matchesCast (some "agentIdentity") document = true := by
    rw [Replica.matchesCast_of_type typed]
    decide
  have listed : document ∈ directory.agentIdentityDocuments later := by
    apply Replica.mem_children_store segment isType
    rw [stored]
    exact Documents.find?_store_self
  exact List.mem_filterMap.mpr ⟨document, listed, decoded⟩

end Directory

end Provision
