import Provision.Proofs.CredentialListing

/-!
# What a creation of a blueprint comes to

A creation that is not refused lists the blueprints, and then keeps one of them
or sends two writes.  Between the two writes the blueprint is there and its
principal is not; a run that stops there reports the id of the blueprint.
-/

namespace Provision

open Replica (Location)

/-- What is listed page by page are the documents below, where no document is stored. -/
theorem items_of_readPages {Element : Type} {element? : Json → Option Element} {what url : String}
    {pages : Nat} {schedule : Nat → Option RemoteError} {now later : Run Replica}
    {sent : List Exchange} {items : List Element} (noDocument : now.state.document? url = none)
    (runs : (readPages element? what pages url).Runs (Client.interrupted schedule) now sent
      (.returned items) later) :
    Json.readAll? element? (now.state.children (.ofUrl url)) = some items := by
  cases pages with
  | zero =>
      have ended := runs.run_eq
      simp [readPages, Program.run] at ended
  | succ pages =>
      rcases runs.of_bind with ⟨_, _, page, middle, -, reads, goesOn⟩ | ⟨_, ⟨⟩, _⟩ | ⟨⟨⟩, _⟩
      rcases Replica.handled_of_runs reads with
        ⟨_, ⟨⟩, _⟩ | ⟨requests, failures, document, state, _, handles, decodes⟩
      let kept : Replica := { now.state with requests, failures }
      have stillNone : kept.document? url = none := noDocument
      obtain ⟨rfl, rfl⟩ := Replica.of_handle_get_list stillNone handles
      cases decoded : Page.decode? element?
          (.object [("value", .array (kept.children (.ofUrl url)))]) with
      | none =>
          simp only [decoded] at decodes
          obtain ⟨-, ⟨⟩, -⟩ := decodes.unique Program.runs_fail
      | some found =>
          simp only [decoded] at decodes
          rw [Page.decode?_list, Option.map_eq_some_iff] at decoded
          obtain ⟨items, read, rfl⟩ := decoded
          obtain ⟨-, ⟨⟩, rfl⟩ := decodes.unique Program.runs_done
          obtain ⟨-, ⟨⟩, rfl⟩ := goesOn.unique Program.runs_done
          exact read

namespace Directory

/-- Where the blueprints are listed. -/
def blueprintsLocation (directory : Directory) : Location := .ofUrl (directory.url blueprintsPath)

/-- Where the principals of the blueprints are listed. -/
def principalsLocation (directory : Directory) : Location :=
  .ofUrl (directory.url blueprintPrincipalsPath)

/-- A blueprint is stored, with the next two ids for its own id and its client id. -/
structure AddsBlueprint (directory : Directory) (blueprint : Blueprint) (earlier later : Replica) :
    Prop where
  id_eq : blueprint.id = earlier.ids.current
  appId_eq : blueprint.appId = earlier.ids.rest.current
  ids_eq : later.ids = earlier.ids.rest.rest
  stored : ∃ document, decode? document = some blueprint ∧
    later.documents = earlier.documents.store
      (directory.blueprintsLocation.path ++ "/" ++ blueprint.id) document

theorem AddsBlueprint.of_unchanged {directory : Directory} {blueprint : Blueprint}
    {earlier middle later : Replica} (adds : directory.AddsBlueprint blueprint middle later)
    (documents : middle.documents = earlier.documents) (ids : middle.ids = earlier.ids) :
    directory.AddsBlueprint blueprint earlier later := by
  rcases adds with ⟨id_eq, appId_eq, ids_eq, stored⟩
  rw [ids] at id_eq appId_eq ids_eq
  rw [documents] at stored
  exact ⟨id_eq, appId_eq, ids_eq, stored⟩

theorem AddsBlueprint.name_eq {directory : Directory} {blueprint : Blueprint}
    {earlier later : Replica} (adds : directory.AddsBlueprint blueprint earlier later) :
    later.ids.name = earlier.ids.name := by
  rw [adds.ids_eq]
  rfl

theorem AddsBlueprint.used_eq {directory : Directory} {blueprint : Blueprint}
    {earlier later : Replica} (adds : directory.AddsBlueprint blueprint earlier later) :
    later.ids.used = earlier.ids.used + 2 := by
  rw [adds.ids_eq]
  rfl

/-- A principal of the blueprint with a client id is stored under the next id. -/
structure AddsPrincipal (directory : Directory) (appId : String) (earlier later : Replica) :
    Prop where
  ids_eq : later.ids = earlier.ids.rest
  stored : ∃ document, document.get? "appId" = some (.string appId) ∧
    Replica.matchesCast directory.principalsLocation.cast document = true ∧
    later.documents = earlier.documents.store
      (directory.principalsLocation.path ++ "/" ++ earlier.ids.current) document

/-- A run stopped between its two writes, and reported the id of the blueprint that is there. -/
def Strands (ending : Ending OperationError BlueprintCreated) (id : String) : Prop :=
  ∃ detail cause, ending = .failed (.write detail cause) ∧ detail.itemId = some id

/-- What a creation of a blueprint comes to. -/
inductive CreationOutcome (directory : Directory) (earlier : Replica) :
    Ending OperationError BlueprintCreated → Replica → Prop where
  /-- Nothing was written. -/
  | stopped {ending : Ending OperationError BlueprintCreated} {later : Replica}
      (documents : later.documents = earlier.documents) (ids : later.ids = earlier.ids)
      (notReturned : ∀ created, ending ≠ .returned created)
      (notStranding : ∀ id, ¬Strands ending id) : CreationOutcome directory earlier ending later
  /-- A blueprint that is listed was kept. -/
  | kept {blueprint : Blueprint} {displayName : String} {path : String} {document : Json}
      {later : Replica} (documents : later.documents = earlier.documents)
      (ids : later.ids = earlier.ids) (stored : (path, document) ∈ earlier.documents)
      (listed : Replica.isChild directory.blueprintsLocation.path path = true)
      (decoded : decode? document = some blueprint) :
      CreationOutcome directory earlier
        (.returned ⟨blueprint.id, blueprint.appId, displayName, none, true⟩) later
  /-- A blueprint and its principal were stored. -/
  | created {blueprint : Blueprint} {displayName : String} {principalId : Option String}
      {middle later : Replica} (first : directory.AddsBlueprint blueprint earlier middle)
      (second : directory.AddsPrincipal blueprint.appId middle later) :
      CreationOutcome directory earlier
        (.returned ⟨blueprint.id, blueprint.appId, displayName, principalId, false⟩) later
  /-- A blueprint was stored, and its principal was refused. -/
  | halfway {blueprint : Blueprint} {displayName : String} {cause : RemoteError}
      {middle later : Replica} (first : directory.AddsBlueprint blueprint earlier middle)
      (documents : later.documents = middle.documents) (ids : later.ids = middle.ids) :
      CreationOutcome directory earlier
        (.failed (.write ⟨displayName, some blueprint.id, none, .present none⟩ cause)) later

variable {directory : Directory} {schedule : Nat → Option RemoteError} {now later : Run Replica}
  {sent : List Exchange} {ending : Ending OperationError BlueprintCreated}

theorem addsBlueprint_of_handle_post {earlier later : Replica} {displayName : String}
    {sponsors owners : List String} {document : Json}
    (isApplications : Text.sameIgnoringCase
      (Replica.lastSegment directory.blueprintsLocation.path) "applications" = true)
    (handles : earlier.handle ⟨.post, directory.url blueprintsPath,
      some (directory.blueprintBody displayName sponsors owners)⟩ = .ok (document, later)) :
    ∃ blueprint : Blueprint, decode? document = some blueprint ∧
      directory.AddsBlueprint blueprint earlier later := by
  obtain ⟨blueprint, decoded, sameId, -, stored⟩ := exists_blueprint directory handles
  obtain ⟨members, body_eq, noId, noAppId, -, -⟩ :=
    blueprintBody_members directory displayName sponsors owners
  rw [body_eq] at handles
  obtain ⟨appIdFound, ids⟩ := Replica.appId_of_handle_post noId noAppId isApplications handles
  obtain ⟨created, rfl, -⟩ := Replica.of_handle_post noId noAppId handles
  refine ⟨blueprint, decoded, sameId, ?_, ids, _, decoded, stored⟩
  have isMember : Members.find? "appId" created = some (.string earlier.ids.rest.current) :=
    appIdFound
  simp only [decode?, Json.fields?, Option.bind_eq_bind, Option.bind_some, Option.bind_eq_some_iff,
    Replica.withDefault_of_find? isMember, Option.pure_def, Option.some.injEq] at decoded
  obtain ⟨_, -, appId, isText, _, -, _, -, rfl⟩ := decoded
  exact (Option.some.inj isText).symm

theorem addsPrincipal_of_handle_post {earlier later : Replica} {appId : String} {document : Json}
    (handles : earlier.handle ⟨.post, directory.url blueprintPrincipalsPath,
      some (Json.ofMembers [("appId", .string appId)])⟩ = .ok (document, later)) :
    directory.AddsPrincipal appId earlier later := by
  have isListed := Replica.matchesCast_of_handle_post (by rfl) handles
  obtain ⟨appIdFound, ids, stored⟩ := Replica.of_handle_post_identified (by rfl) (by rfl) handles
  exact ⟨ids, document, appIdFound, isListed, stored⟩

/-- A run that fails otherwise than at a write, and changes nothing, has stopped. -/
theorem CreationOutcome.of_error {error : OperationError}
    (notWriting : ∀ detail cause, error ≠ .write detail cause)
    (documents : later.state.documents = now.state.documents)
    (ids : later.state.ids = now.state.ids) :
    CreationOutcome directory now.state (.failed error) later.state := by
  refine .stopped documents ids (by simp) ?_
  rintro id ⟨detail, cause, ⟨⟩, -⟩
  exact notWriting detail cause rfl

/-- The blueprints that are listed are stored. -/
theorem listed_of_runs {existing : List Blueprint}
    (noList : now.state.document? (directory.url blueprintsPath) = none)
    (lists : (directory.listBlueprints none).Runs (Client.interrupted schedule) now sent
      (.returned existing) later) :
    ∀ blueprint ∈ existing, ∃ path document, (path, document) ∈ now.state.documents ∧
      Replica.isChild directory.blueprintsLocation.path path = true ∧
        decode? document = some blueprint := by
  rcases lists.of_bind with ⟨_, _, blueprints, middle, -, pages, returns⟩ | ⟨_, ⟨⟩, _⟩ | ⟨⟨⟩, _⟩
  obtain ⟨-, ⟨⟩, rfl⟩ := returns.unique Program.runs_done
  have read := items_of_readPages noList pages
  intro blueprint blueprint_mem
  obtain ⟨document, document_mem, decoded⟩ := exists_element_of_mem_readAll? read blueprint_mem
  simp only [Replica.children, List.mem_map, List.mem_filter, Bool.and_eq_true] at document_mem
  obtain ⟨⟨path, _⟩, ⟨stored, listed, -⟩, rfl⟩ := document_mem
  exact ⟨path, _, stored, listed, decoded⟩

/-- The blueprint that a policy keeps is one of the namesakes, and is found by its id. -/
theorem exists_kept {policy : Namesake.Policy} {displayName existingId : String}
    {namesakes : List Blueprint}
    (decided : policy.decide displayName (namesakes.map Blueprint.id) = .ok (.reuse existingId)) :
    ∃ kept ∈ namesakes, existingId = kept.id ∧
      namesakes.find? (fun blueprint => blueprint.id = existingId) = some kept := by
  cases namesakes with
  | nil => cases policy <;> cases decided
  | cons first others =>
      cases policy with
      | fail => cases decided
      | createAnyway => cases decided
      | skip =>
          cases decided
          exact ⟨first, by simp, rfl, by simp⟩

/-- Every creation has one of the outcomes, whichever of its requests fail. -/
theorem creationOutcome_of_runs {displayName : String} {sponsorIds ownerIds : List String}
    {policy : Namesake.Policy}
    (isApplications : Text.sameIgnoringCase
      (Replica.lastSegment directory.blueprintsLocation.path) "applications" = true)
    (noList : now.state.document? (directory.url blueprintsPath) = none)
    (runs : (directory.createBlueprint displayName sponsorIds ownerIds policy).Runs
      (Client.interrupted schedule) now sent ending later) :
    CreationOutcome directory now.state ending later.state := by
  rcases runs.of_check with ⟨_, -, -, rfl, rfl⟩ | ⟨_, -, sponsored⟩
  · exact .of_error (by simp) rfl rfl
  rcases sponsored.of_check with ⟨_, -, -, rfl, rfl⟩ | ⟨sponsors, -, owned⟩
  · exact .of_error (by simp) rfl rfl
  rcases owned.of_check with ⟨_, -, -, rfl, rfl⟩ | ⟨owners, -, listing⟩
  · exact .of_error (by simp) rfl rfl
  rcases listing.of_bind with
    ⟨_, _, existing, middle, -, lists, goesOn⟩ | ⟨failure, rfl, lists⟩ | ⟨rfl, lists⟩
  rotate_left
  · obtain ⟨documents, ids, notWriting⟩ := (reads_listBlueprints _ _).unchanged lists
    exact .of_error (notWriting _ rfl) documents ids
  · obtain ⟨documents, ids, -⟩ := (reads_listBlueprints _ _).unchanged lists
    exact .stopped documents ids (by simp) (by simp [Strands])
  obtain ⟨documents, ids, -⟩ := (reads_listBlueprints _ _).unchanged lists
  rcases goesOn.of_check with ⟨_, -, -, rfl, rfl⟩ | ⟨decision, decided, decides⟩
  · exact .of_error (by simp) documents ids
  cases decision with
  | reuse existingId =>
      obtain ⟨kept, kept_mem, rfl, found⟩ := exists_kept decided
      obtain ⟨path, document, stored, isListed, decoded⟩ :=
        listed_of_runs noList lists kept (List.mem_filter.mp kept_mem).1
      obtain ⟨-, rfl, rfl⟩ := decides.of_progress.unique Program.runs_done
      rw [found]
      exact .kept documents ids stored isListed decoded
  | create =>
      rcases Replica.handled_of_runs decides.of_progress with
        ⟨error, rfl, refusedDocuments, refusedIds⟩ |
        ⟨requests, failures, document, written, rest, creates, decodes⟩
      · refine .stopped (refusedDocuments.trans documents) (refusedIds.trans ids) (by simp) ?_
        rintro id ⟨_, _, ⟨⟩, ⟨⟩⟩
      obtain ⟨blueprint, decoded, added⟩ := addsBlueprint_of_handle_post isApplications creates
      have first : directory.AddsBlueprint blueprint now.state written :=
        added.of_unchanged documents ids
      simp only [decoded] at decodes
      rcases Replica.handled_of_runs decodes.of_progress with
        ⟨error, rfl, refusedDocuments, refusedIds⟩ |
        ⟨requests, failures, document, last, rest, adds, returns⟩
      · exact .halfway first refusedDocuments refusedIds
      obtain ⟨-, rfl, rfl⟩ := returns.unique Program.runs_done
      have second := addsPrincipal_of_handle_post adds
      exact .created first ⟨second.ids_eq, second.stored⟩

end Directory

end Provision
