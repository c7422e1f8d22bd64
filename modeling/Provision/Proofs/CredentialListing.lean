import Mathlib.Data.List.Forall2
import Provision.Proofs.CredentialDocuments
import Provision.Proofs.Leftovers

/-!
# The credentials that a replica holds

A replica answers for the list of the credentials of an application with the
documents directly below the list.  It holds the credentials when each of these
documents is a credential that stands at the path of its own id.  Then the list
is read as these credentials, a document that is stored in the place of one of
them changes this one, and a document that is stored under an unused id comes
last.
-/

namespace Provision

namespace Replica

namespace Documents

variable {path : String} {document old : Json} {documents before after : Documents}
  {keep : String × Json → Bool}

theorem has_eq_false_iff : documents.has path = false ↔ path ∉ documents.map Prod.fst := by
  rw [List.mem_map, not_exists, has, Option.isSome_eq_false_iff, Option.isNone_iff_eq_none, find?,
    Members.find?_eq_none_iff]
  simp only [not_and]

theorem store_append_cons (distinct : ((before ++ (path, old) :: after).map Prod.fst).Nodup) :
    (before ++ (path, old) :: after).store path document = before ++ (path, document) :: after := by
  induction before with
  | nil => simp [store]
  | cons stored rest ih =>
      rcases List.nodup_cons.mp distinct with ⟨apart, restDistinct⟩
      have different : stored.1 ≠ path := by
        intro same
        exact apart (by simp [same])
      simp [store, different, ih restDistinct]

/-- Storing a document that is kept in every version commutes with leaving others out. -/
theorem filter_store (keeps : keep (path, document) = true)
    (kept : ∀ old, (path, old) ∈ documents → keep (path, old) = true) :
    (documents.store path document).filter keep = store path document (documents.filter keep) := by
  induction documents with
  | nil => simp [store, keeps]
  | cons stored rest ih =>
      rcases stored with ⟨other, held⟩
      by_cases same : other = path
      · subst same
        simp [store, keeps, kept held (by simp)]
      · have storedBelow := ih fun old old_mem => kept old (List.mem_cons_of_mem _ old_mem)
        by_cases keptHead : keep (other, held) = true <;>
          simp [store, same, keptHead, storedBelow]

end Documents

variable {replica : Replica} {url : String}

/-- A list is answered for with its documents, or the request is refused; without a due failure it
is refused only when there are none. -/
theorem answer_list (body : Option Json) (noDocument : replica.document? url = none) :
    (∃ state, replica.answer ⟨.get, url, body⟩ =
      (.ok (.object [("value", .array (replica.children (Location.ofUrl url)))]), state)) ∨
    ∃ error state, replica.answer ⟨.get, url, body⟩ = (.error error, state) ∧
      (replica.due? ⟨.get, url, body⟩ = none → replica.children (Location.ofUrl url) = []) := by
  rcases taken : takeFailure .get url replica.failures with ⟨due, failures⟩
  cases due with
  | some failure =>
      right
      refine ⟨.refused .get url failure.status failure.body,
        { replica with requests := replica.requests ++ [⟨.get, url, body⟩], failures },
        by simp only [answer, taken], ?_⟩
      intro noneDue
      simp [due?, taken] at noneDue
  | none =>
      let kept : Replica :=
        { replica with requests := replica.requests ++ [⟨.get, url, body⟩], failures }
      have absent : kept.documents.find? (Location.ofUrl url).path = none := noDocument
      rcases read_list absent with found | ⟨⟨refusal, refused⟩, nothing⟩
      · left
        refine ⟨kept, ?_⟩
        have handled : kept.handle ⟨.get, url, body⟩ = .ok
            (.object [("value", .array (replica.children (Location.ofUrl url)))], kept) := by
          simp only [handle, found, bind, Except.bind, pure, Except.pure]
          rfl
        simp only [answer, taken, kept, handled]
      · right
        refine ⟨.refused .get url refusal.1 refusal.2.compact, kept, ?_, fun _ => nothing⟩
        have handled : kept.handle ⟨.get, url, body⟩ = .error refusal := by
          simp only [handle, refused, bind, Except.bind]
        simp only [answer, taken, kept, handled]

theorem matchesCast_of_handle_post {members : List (String × Json)} {document : Json}
    {later : Replica} (noType : Members.find? "@odata.type" members = none)
    (handles : replica.handle ⟨.post, url, some (.object members)⟩ = .ok (document, later)) :
    matchesCast (Location.ofUrl url).cast document = true := by
  cases narrowed : (Location.ofUrl url).cast with
  | none => rfl
  | some cast =>
      simp only [handle, bodyMembers, bind, Except.bind, pure, Except.pure, create, narrowed,
        Except.ok.injEq, Prod.mk.injEq] at handles
      rw [← handles.1]
      have typed := sameIgnoringCase_typeName (Location.cast_ofUrl narrowed)
      simp only [matchesCast, Option.all_some, Json.get?, Json.members?, Option.bind_some]
      rw [Members.find?_insertNew_self]
      · simpa [Json.text?] using typed
      · rw [find?_assignAppId (by decide), Members.find?_insert_of_ne (by decide)]
        exact noType

theorem matchesCast_override {cast : Option String} {members changes : List (String × Json)}
    (noType : Members.find? "@odata.type" changes = none) :
    matchesCast cast (.object (Members.override members changes)) =
      matchesCast cast (.object members) := by
  have kept : Members.find? "@odata.type" (Members.override members changes) =
      Members.find? "@odata.type" members :=
    Members.find?_override_of_forall_ne (Members.find?_eq_none_iff.mp noType)
  simp only [matchesCast, Json.get?, Json.members?, Option.bind_some, kept]

end Replica

theorem exists_split_of_forall₂ {First Second : Type} {related : First → Second → Prop}
    {firsts : List First} {before after : List Second} {second : Second}
    (pairs : List.Forall₂ related firsts (before ++ second :: after)) :
    ∃ firstsBefore first firstsAfter, firsts = firstsBefore ++ first :: firstsAfter ∧
      List.Forall₂ related firstsBefore before ∧ related first second ∧
      List.Forall₂ related firstsAfter after := by
  induction before generalizing firsts with
  | nil =>
      cases pairs with
      | @cons first _ rest _ isFirst isRest => exact ⟨[], first, rest, rfl, .nil, isFirst, isRest⟩
  | cons other before ih =>
      cases pairs with
      | @cons first _ rest _ isFirst isRest =>
          rcases ih isRest with ⟨firstsBefore, found, firstsAfter, rfl, isBefore, isFound, isAfter⟩
          exact ⟨first :: firstsBefore, found, firstsAfter, rfl, .cons isFirst isBefore, isFound,
            isAfter⟩

section Pages

variable {State Element : Type} {client : Client State} {now : Run State} {state : State}
  {element? : Json → Option Element} {pages : Nat} {url : String}

/-- A page with nothing but a list on it is the last one. -/
theorem Page.decode?_list {elements : List Json} :
    Page.decode? element? (.object [("value", .array elements)]) =
      (Json.readAll? element? elements).map fun items => ⟨items, none⟩ := by
  cases read : Json.readAll? element? elements <;>
    simp [Page.decode?, Json.fields?, Json.withDefault, Json.list?, Json.elements?, read,
      Members.find?, Members.has, Json.optional, Page.linkName, Page.shortLinkName]

theorem runs_readPages_single {document : Json} {page : Page Element} (what : String)
    (sends : client.send ⟨.get, url, none⟩ now.state = (.ok document, state))
    (decoded : Page.decode? element? document = some page) (single : page.link? = none) :
    (readPages element? what (pages + 1) url).Runs client now [⟨⟨.get, url, none⟩, .ok document⟩]
      (.returned page.items) { now with state } := by
  have requested := (Program.runs_request sends).mapFailure (OperationError.read what)
  have first : (readDocument (Page.decode? element?) what url).Runs client now
      [⟨⟨.get, url, none⟩, .ok document⟩] (.returned page) { now with state } := by
    rw [← List.append_nil [_]]
    refine requested.bind ?_
    simp only [decoded]
    exact Program.runs_done
  rw [← List.append_nil [_]]
  refine first.bind ?_
  simp only [single]
  exact Program.runs_done

theorem runs_readPages_refused {error : RemoteError} (what : String)
    (sends : client.send ⟨.get, url, none⟩ now.state = (.error error, state)) :
    (readPages element? what (pages + 1) url).Runs client now [⟨⟨.get, url, none⟩, .error error⟩]
      (.failed (.read what error)) { now with state } :=
  (((Program.runs_request sends).mapFailure (OperationError.read what)).bind_failed).bind_failed

end Pages

namespace Directory

open Replica (Location Documents IsSegment matchesCast isChild)

/-- Where the credentials of an application are. -/
def credentialsLocation (directory : Directory) (applicationId : String) : Location :=
  .ofUrl (directory.url (credentialsPath applicationId))

/-- The path of the credential with an id. -/
def credentialPath (directory : Directory) (applicationId id : String) : String :=
  (directory.credentialsLocation applicationId).path ++ "/" ++ id

/-- The documents that are listed as the credentials of an application, with their paths. -/
def credentialDocuments (directory : Directory) (applicationId : String) (documents : Documents) :
    Documents :=
  documents.filter fun (path, document) =>
    isChild (directory.credentialsLocation applicationId).path path &&
      matchesCast (directory.credentialsLocation applicationId).cast document

/-- A document is a credential that stands under its own id. -/
structure CredentialAt (directory : Directory) (applicationId : String) (stored : String × Json)
    (credential : Credential) : Prop where
  path_eq : stored.1 = directory.credentialPath applicationId credential.id
  segment : IsSegment credential.id
  decoded : decode? stored.2 = some credential

/-- A replica holds an application and its credentials: the documents below their list are these
credentials, each at a path of its own, and no two of them share their name. -/
structure HoldsCredentials (directory : Directory) (applicationId : String) (replica : Replica)
    (credentials : List Credential) : Prop where
  application : (replica.document? (directory.applicationUrl applicationId)).isSome
  noList : replica.document? (directory.url (credentialsPath applicationId)) = none
  distinctPaths : (replica.documents.map Prod.fst).Nodup
  stored : List.Forall₂ (directory.CredentialAt applicationId)
    (directory.credentialDocuments applicationId replica.documents) credentials
  distinctNames : (⟨credentials⟩ : Collection Credential).Distinct

variable {directory : Directory} {applicationId id : String} {replica later : Replica}
  {credentials before after : List Credential} {credential existing updated created : Credential}
  {document : Json} {documents : Documents}

theorem url_credential (directory : Directory) (applicationId id : String) :
    directory.url (credentialsPath applicationId ++ "/" ++ id) =
      directory.url (credentialsPath applicationId) ++ "/" ++ id := by
  simp [url, credentialsPath, Text.dropLeading, ← String.toList_inj]

theorem url_credentials (directory : Directory) (applicationId : String) :
    directory.url (credentialsPath applicationId) =
      String.ofList ((directory.applicationUrl applicationId).toList ++
        "/federatedIdentityCredentials".toList) := by
  simp [applicationUrl, url, credentialsPath, Text.dropLeading, ← String.toList_inj]

theorem listed_iff {stored : String × Json} :
    stored ∈ directory.credentialDocuments applicationId documents ↔
      stored ∈ documents ∧ isChild (directory.credentialsLocation applicationId).path stored.1 ∧
        matchesCast (directory.credentialsLocation applicationId).cast stored.2 := by
  simp [credentialDocuments]

theorem credentialDocuments_sublist (directory : Directory) (applicationId : String)
    (documents : Documents) :
    (directory.credentialDocuments applicationId documents).Sublist documents :=
  List.filter_sublist

theorem credentialDocuments_store (segment : IsSegment id)
    (isListed : matchesCast (directory.credentialsLocation applicationId).cast document = true)
    (kept : ∀ old, (directory.credentialPath applicationId id, old) ∈ documents →
      matchesCast (directory.credentialsLocation applicationId).cast old = true) :
    directory.credentialDocuments applicationId
        (documents.store (directory.credentialPath applicationId id) document) =
      (directory.credentialDocuments applicationId documents).store
        (directory.credentialPath applicationId id) document := by
  have below : isChild (directory.credentialsLocation applicationId).path
      (directory.credentialPath applicationId id) = true := Replica.isChild_segment segment _
  apply Documents.filter_store
  · simp [below, isListed]
  · intro old old_mem
    simp [below, kept old old_mem]

namespace HoldsCredentials

theorem of_documents_eq (holds : directory.HoldsCredentials applicationId replica credentials)
    (unchanged : later.documents = replica.documents) :
    directory.HoldsCredentials applicationId later credentials := by
  rcases holds with ⟨application, noList, distinctPaths, stored, distinctNames⟩
  simp only [Replica.document?, ← unchanged] at application noList distinctPaths stored
  exact ⟨application, noList, distinctPaths, stored, distinctNames⟩

theorem distinctIds (holds : directory.HoldsCredentials applicationId replica credentials) :
    (credentials.map Credential.id).Nodup := by
  have paths : List.Forall₂ (· = ·)
      ((directory.credentialDocuments applicationId replica.documents).map Prod.fst)
      ((credentials.map Credential.id).map (directory.credentialPath applicationId)) := by
    simp only [List.forall₂_map_left_iff, List.forall₂_map_right_iff]
    exact holds.stored.imp fun _ _ isAt => isAt.path_eq
  rw [List.forall₂_eq_eq_eq] at paths
  have distinct := holds.distinctPaths.sublist
    ((credentialDocuments_sublist directory applicationId _).map Prod.fst)
  rw [paths] at distinct
  exact distinct.of_map

/-- The URL of an application that is told apart from the list of its credentials has no query. -/
theorem noQuery (holds : directory.HoldsCredentials applicationId replica credentials) :
    '?' ∉ (directory.applicationUrl applicationId).toList := by
  intro query
  -- what is appended to a URL with a query is no part of its path
  have same : directory.credentialsLocation applicationId =
      Location.ofUrl (directory.applicationUrl applicationId) := by
    rw [credentialsLocation, url_credentials, Location.ofUrl_append_of_query query,
      String.ofList_toList]
  have noList : replica.documents.find? (directory.credentialsLocation applicationId).path = none :=
    holds.noList
  have application := holds.application
  rw [Replica.document?, ← same, noList] at application
  exact absurd application (by simp)

theorem path_credential (holds : directory.HoldsCredentials applicationId replica credentials)
    (segment : IsSegment id) :
    (Location.ofUrl (directory.url (credentialsPath applicationId ++ "/" ++ id))).path =
      directory.credentialPath applicationId id := by
  have split : directory.url (credentialsPath applicationId) =
      String.ofList (((directory.applicationUrl applicationId).toList ++
        "/federatedIdentityCredential".toList) ++ ['s']) := by
    rw [url_credentials]
    simp
  have noQuery := holds.noQuery
  rw [url_credential]
  exact Location.path_ofUrl_segment segment (by decide) (by simp [noQuery]) split

theorem document_of_mem (holds : directory.HoldsCredentials applicationId replica credentials)
    (credential_mem : credential ∈ credentials) :
    IsSegment credential.id ∧ ∃ document,
      replica.documents.find? (directory.credentialPath applicationId credential.id) =
          some document ∧
        matchesCast (directory.credentialsLocation applicationId).cast document = true ∧
        decode? document = some credential := by
  rcases List.append_of_mem credential_mem with ⟨before, after, rfl⟩
  rcases exists_split_of_forall₂ holds.stored with
    ⟨storedBefore, ⟨path, document⟩, storedAfter, listed_eq, -, ⟨rfl, segment, decoded⟩, -⟩
  have stored_mem := listed_iff.mp (listed_eq ▸ List.mem_append_right storedBefore
    (List.mem_cons_self ..))
  exact ⟨segment, document, Members.find?_of_mem holds.distinctPaths stored_mem.1, stored_mem.2.2,
    decoded⟩

/-- Storing a document below the list leaves the application where it is, and nothing in the place
of the list. -/
theorem frame (holds : directory.HoldsCredentials applicationId replica credentials)
    (stores : later.documents =
      replica.documents.store (directory.credentialPath applicationId id) document) :
    (later.document? (directory.applicationUrl applicationId)).isSome ∧
      later.document? (directory.url (credentialsPath applicationId)) = none := by
  constructor
  · rw [Replica.document?, stores]
    by_cases same : (Location.ofUrl (directory.applicationUrl applicationId)).path =
        directory.credentialPath applicationId id
    · rw [same, Documents.find?_store_self]
      rfl
    · rw [Documents.find?_store_of_ne same]
      exact holds.application
  · have apart : (directory.credentialsLocation applicationId).path ≠
        directory.credentialPath applicationId id := by
      intro same
      simp [credentialPath, ← String.toList_inj] at same
    rw [Replica.document?, stores]
    exact (Documents.find?_store_of_ne apart).trans holds.noList

/-- A document that is stored under an unused id adds its credential to the end of the list. -/
theorem add (holds : directory.HoldsCredentials applicationId replica credentials)
    (unused : replica.documents.has (directory.credentialPath applicationId created.id) = false)
    (segment : IsSegment created.id) (decoded : decode? document = some created)
    (isListed : matchesCast (directory.credentialsLocation applicationId).cast document = true)
    (absent : ∀ credential ∈ credentials, credential.name ≠ created.name)
    (stores : later.documents =
      replica.documents.store (directory.credentialPath applicationId created.id) document) :
    directory.HoldsCredentials applicationId later (credentials ++ [created]) := by
  obtain ⟨application, noList⟩ := holds.frame stores
  have notStored := Documents.has_eq_false_iff.mp unused
  have appended := stores.trans (Documents.store_of_has_eq_false unused)
  refine ⟨application, noList, ?_, ?_, ?_⟩
  · rw [appended, List.map_append, List.nodup_append]
    refine ⟨holds.distinctPaths, by simp, ?_⟩
    rintro path path_mem _ last_mem rfl
    obtain rfl := List.mem_singleton.mp last_mem
    exact notStored path_mem
  · have below := Replica.isChild_segment segment (directory.credentialsLocation applicationId).path
    rw [appended, credentialDocuments, List.filter_append]
    refine List.rel_append holds.stored ?_
    simp only [List.filter_cons, credentialPath, below, isListed, Bool.and_self, if_true,
      List.filter_nil]
    exact .cons ⟨rfl, segment, decoded⟩ .nil
  · rw [Collection.Distinct, List.map_append, List.nodup_append]
    exact ⟨holds.distinctNames, by simp, by simpa [Item.key] using absent⟩

/-- A document that is stored in the place of a credential changes this one in the list. -/
theorem replace (holds : directory.HoldsCredentials applicationId replica
      (before ++ existing :: after))
    (decoded : decode? document = some updated) (sameId : updated.id = existing.id)
    (sameName : updated.name = existing.name)
    (isListed : matchesCast (directory.credentialsLocation applicationId).cast document = true)
    (stores : later.documents =
      replica.documents.store (directory.credentialPath applicationId existing.id) document) :
    directory.HoldsCredentials applicationId later (before ++ updated :: after) := by
  obtain ⟨application, noList⟩ := holds.frame stores
  have distinctPaths := holds.distinctPaths
  rcases exists_split_of_forall₂ holds.stored with
    ⟨storedBefore, ⟨path, old⟩, storedAfter, listed_eq, isBefore, ⟨rfl, segment, _⟩, isAfter⟩
  have listed_mem := listed_iff.mp (listed_eq ▸ List.mem_append_right storedBefore
    (List.mem_cons_self ..))
  -- a document left out of the list for its type would come back, but no other has this path
  have onlyOld : ∀ other, (directory.credentialPath applicationId existing.id, other) ∈
      replica.documents → matchesCast (directory.credentialsLocation applicationId).cast other := by
    intro other other_mem
    have same := List.inj_on_of_nodup_map distinctPaths other_mem listed_mem.1 rfl
    rw [(Prod.mk.inj same).2]
    exact listed_mem.2.2
  have listed_later : directory.credentialDocuments applicationId later.documents =
      storedBefore ++ (directory.credentialPath applicationId existing.id, document) ::
        storedAfter := by
    have distinct := distinctPaths.sublist
      ((credentialDocuments_sublist directory applicationId _).map Prod.fst)
    rw [stores, credentialDocuments_store segment isListed onlyOld, listed_eq,
      Documents.store_append_cons (listed_eq ▸ distinct)]
  refine ⟨application, noList, ?_, ?_, ?_⟩
  · rcases List.append_of_mem listed_mem.1 with ⟨docsBefore, docsAfter, documents_eq⟩
    rw [documents_eq] at distinctPaths
    rw [stores, documents_eq, Documents.store_append_cons distinctPaths]
    simpa using distinctPaths
  · rw [listed_later]
    exact List.rel_append isBefore (.cons ⟨by rw [sameId], by rwa [sameId], decoded⟩ isAfter)
  · have distinct := holds.distinctNames
    simpa [Collection.Distinct, Item.key, sameName] using distinct

/-- A creation adds a credential with the settings, which is reported by its id. -/
theorem of_creation {spec : CredentialSpec}
    (holds : directory.HoldsCredentials applicationId replica credentials)
    (segment : IsSegment replica.ids.current)
    (unused : replica.documents.has (directory.credentialPath applicationId replica.ids.current) =
      false)
    (absent : ∀ credential ∈ credentials, credential.name ≠ spec.name)
    (handles : replica.handle ⟨.post, directory.url (credentialsPath applicationId),
      some spec.creation⟩ = .ok (document, later)) :
    ∃ created : Credential, (document.get? "id").bind Json.text? = some created.id ∧
      created.name = spec.name ∧ created.hasSettings spec = true ∧
      directory.HoldsCredentials applicationId later (credentials ++ [created]) := by
  have noId : Members.find? "id" spec.creationMembers = none := by
    simp [CredentialSpec.find?_creationMembers]
  have noAppId : Members.find? "appId" spec.creationMembers = none := by
    simp [CredentialSpec.find?_creationMembers]
  have noType : Members.find? "@odata.type" spec.creationMembers = none := by
    simp [CredentialSpec.find?_creationMembers]
  rw [CredentialSpec.creation] at handles
  have isListed := Replica.matchesCast_of_handle_post noType handles
  obtain ⟨members, rfl, hasId, -, kept, stores⟩ := Replica.of_handle_post noId noAppId handles
  let created : Credential := { (Specification.build spec replica.ids.current : Credential) with
    extra := Members.without Credential.fieldNames members }
  have decoded : decode? (.object members) = some created := Credential.decode?_created hasId kept
  refine ⟨created, ?_, rfl, ?_, holds.add unused segment decoded isListed absent stores⟩
  · simp [created, Specification.build, Json.get?, Json.members?, hasId, Json.text?]
  · simp [created, Credential.hasSettings, Specification.build]

/-- A replacement gives a credential the settings, and leaves it where it is. -/
theorem of_replacement {spec : CredentialSpec}
    (holds : directory.HoldsCredentials applicationId replica (before ++ existing :: after))
    (handles : replica.handle ⟨.patch,
      directory.url (credentialsPath applicationId ++ "/" ++ existing.id), some spec.replacement⟩ =
        .ok (document, later)) :
    directory.HoldsCredentials applicationId later (before ++ existing.settle spec :: after) := by
  have existing_mem : existing ∈ before ++ existing :: after := by simp
  obtain ⟨segment, old, stored, isListed, decoded⟩ := holds.document_of_mem existing_mem
  rw [CredentialSpec.replacement] at handles
  obtain ⟨-, members, found, stores⟩ := Replica.of_handle_patch handles
  rw [holds.path_credential segment] at stores
  rw [Replica.document?, holds.path_credential segment, stored] at found
  obtain rfl := Option.some.inj found
  refine holds.replace (Credential.decode?_replaced decoded spec) rfl rfl ?_ stores
  rw [Replica.matchesCast_override (by simp [CredentialSpec.find?_replacementMembers])]
  exact isListed

theorem read_children (holds : directory.HoldsCredentials applicationId replica credentials) :
    Json.readAll? decode? (replica.children (directory.credentialsLocation applicationId)) =
      some credentials := by
  apply readAll?_eq_some_iff.mpr
  apply List.forall₂_map_left_iff.mpr
  exact holds.stored.imp fun _ _ isAt => isAt.decoded

/-- The credentials are fetched as they are held, or the request is refused; without a due failure
it is refused only when there are none. -/
theorem runs_fetch {now : Run Replica}
    (holds : directory.HoldsCredentials applicationId now.state credentials)
    (paged : directory.pageLimit ≠ 0) :
    (∃ reads middle, (directory.fetchCredentials applicationId).Runs Client.replica now reads
      (.returned ⟨credentials⟩) middle) ∨
    ∃ reads failure middle, (directory.fetchCredentials applicationId).Runs Client.replica now reads
        (.failed failure) middle ∧
      (now.state.due? ⟨.get, directory.url (credentialsPath applicationId), none⟩ = none →
        credentials = []) := by
  obtain ⟨pages, limit⟩ := Nat.exists_eq_succ_of_ne_zero paged
  have pagesRead : directory.fetchCredentials applicationId =
      (do
        let items ← readPages decode? "federated identity credentials" (pages + 1)
          (directory.url (credentialsPath applicationId))
        return ⟨items⟩) := by
    rw [fetchCredentials, list, limit]
  have read := holds.read_children
  rw [pagesRead]
  rcases Replica.answer_list none holds.noList with ⟨state, sends⟩ | ⟨error, state, sends, nothing⟩
  · left
    have decoded : Page.decode? decode? (.object [("value",
        .array (now.state.children (directory.credentialsLocation applicationId)))]) =
          some (⟨credentials, none⟩ : Page Credential) := by
      rw [Page.decode?_list, read]
      rfl
    exact ⟨_, _, (runs_readPages_single _ sends decoded rfl).bind_return⟩
  · right
    refine ⟨_, _, _, (runs_readPages_refused _ sends).bind_failed, ?_⟩
    intro noneDue
    have noChildren : now.state.children (directory.credentialsLocation applicationId) = [] :=
      nothing noneDue
    rw [noChildren] at read
    exact (Option.some.inj read).symm

end HoldsCredentials

end Directory

end Provision
