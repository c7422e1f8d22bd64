import Provision.Directory.Credentials
import Provision.Proofs.Contracts
import Provision.Proofs.Members
import Provision.Proofs.Planning
import Provision.Replica.Basic

/-!
# Which writes bring a credential up to date

A specification names a credential, and its settings are meant to be written to
the endpoint of that very credential, or to a new one when there is none.  The
operation looks the planned credential up a second time by its id, and a new
credential has the empty id.  So the documented writes are sent exactly when
that lookup finds the credential that was planned: when no listed credential
lacks an id as the new one does, or when the named one is the first with its id.
-/

namespace Provision

namespace Credential

/-- Whether a credential has the settings of a specification. -/
def hasSettings (credential : Credential) (spec : CredentialSpec) : Bool :=
  credential.issuer = spec.issuer && credential.subject = spec.subject &&
    credential.audiences = spec.audiences && credential.description = spec.description

end Credential

namespace CredentialSpec

/-- The members of the document of a new credential: the name and the settings, and nothing else. -/
def creationMembers (spec : CredentialSpec) : List (String × Json) :=
  Members.ofList <| Json.present
    [("name", some (.string spec.name)), ("issuer", some (.string spec.issuer)),
      ("subject", some (.string spec.subject)), ("audiences", some (Json.ofTexts spec.audiences)),
      ("description", spec.description.map .string)]

/-- The document of a new credential. -/
def creation (spec : CredentialSpec) : Json := .object spec.creationMembers

/-- The members that are set in the document of an existing credential: the settings. -/
def replacementMembers (spec : CredentialSpec) : List (String × Json) :=
  Members.ofList
    [("issuer", .string spec.issuer), ("subject", .string spec.subject),
      ("audiences", Json.ofTexts spec.audiences),
      ("description", Json.ofOptional spec.description)]

/-- The change that gives an existing credential the settings. -/
def replacement (spec : CredentialSpec) : Json := .object spec.replacementMembers

/-- The credential that has the name of the specification. -/
def named? (spec : CredentialSpec) (listing : Collection Credential) : Option Credential :=
  listing.items.find? fun credential => credential.name = spec.name

/-- A lookup by id finds what was planned: nothing with the empty id when the credential is new, and
otherwise the credential itself, unless it has the settings already. -/
def FoundById (spec : CredentialSpec) (listing : Collection Credential) : Prop :=
  match spec.named? listing with
  | none => listing.get? "" = none
  | some existing => listing.get? existing.id = some existing ∨ existing.hasSettings spec = true

end CredentialSpec

namespace Directory

/-- The writes that bring the credential that a specification names up to date. -/
def documentedWrites (directory : Directory) (applicationId : String)
    (listing : Collection Credential) (spec : CredentialSpec) : List Request :=
  match spec.named? listing with
  | none => [⟨.post, directory.url (credentialsPath applicationId), some spec.creation⟩]
  | some existing =>
    if existing.hasSettings spec then []
    else [⟨.patch, directory.url (credentialsPath applicationId ++ "/" ++ existing.id),
      some spec.replacement⟩]

end Directory

namespace Credential

variable {spec : CredentialSpec} {credential : Credential}

theorem createBody_build (spec : CredentialSpec) :
    (Specification.build spec "" : Credential).createBody = spec.creation := by
  rcases spec with ⟨name, issuer, subject, audiences, description⟩
  cases description <;> rfl

theorem updateBody_build (spec : CredentialSpec) (id : String) :
    (Specification.build spec id : Credential).updateBody = spec.replacement := rfl

theorem sameSettings_build (credential : Credential) (spec : CredentialSpec) (id : String) :
    credential.sameSettings (Specification.build spec id) = credential.hasSettings spec := rfl

theorem sameSettings_self (credential : Credential) :
    credential.sameSettings credential = true := by
  simp [sameSettings]

/-- A document with further members beside the fields bears its name. -/
theorem get?_name_createBody (unlisted : ∀ member ∈ credential.extra, member.1 ∉ fieldNames) :
    credential.createBody.get? "name" = some (.string credential.name) := by
  have nameApart : ∀ member ∈ credential.extra, member.1 ≠ "name" := by
    rintro member member_mem isName
    exact unlisted member member_mem (by simp [isName, fieldNames])
  by_cases noId : credential.id = "" <;> cases described : credential.description <;>
    simp [createBody, encode, Json.get?, Json.members?, Members.find?_erase_of_ne,
      Members.find?_override_of_forall_ne nameApart, Json.present, noId, described,
      Members.ofList, Members.find?_insert]

theorem get?_name_creation (spec : CredentialSpec) :
    spec.creation.get? "name" = some (.string spec.name) := by
  cases described : spec.description <;>
    simp [CredentialSpec.creation, CredentialSpec.creationMembers, Json.get?, Json.members?,
      Json.present, described, Members.ofList, Members.find?_insert]

/-- What is sent for a credential with another name is not the document of the new credential. -/
theorem createBody_ne_creation (unlisted : ∀ member ∈ credential.extra, member.1 ∉ fieldNames)
    (otherName : credential.name ≠ spec.name) : credential.createBody ≠ spec.creation := by
  intro same
  have names := get?_name_createBody unlisted
  rw [same, get?_name_creation] at names
  simp only [Option.some.injEq, Json.string.injEq] at names
  exact otherName names.symm

/-- A credential that is read has none of the fields among its further members. -/
theorem unlisted_of_decode {document : Json} (decoded : decode? document = some credential) :
    ∀ member ∈ credential.extra, member.1 ∉ fieldNames := by
  simp only [decode?, Option.bind_eq_bind, Option.bind_eq_some_iff, Option.pure_def,
    Option.some.injEq] at decoded
  rcases decoded with ⟨_, _, _, _, _, _, _, _, _, _, _, _, _, _, rfl⟩
  exact fun member => Members.not_mem_of_mem_without

end Credential

/-- A contract that allows nothing but reading. -/
def Contract.reading : Contract where
  allows request := request.isWrite = false
  admits _ _ := True

section Reading

variable {Element : Type} {element? : Json → Option Element}

theorem readDocument_meets (what url : String) :
    (readDocument element? what url).Meets .reading fun element =>
      ∃ document, element? document = some element := by
  refine ((Program.meets_request rfl).mapFailure _).bind ?_
  intro document _
  cases read : element? document with
  | none => exact .fail
  | some element => exact .done ⟨document, read⟩

theorem Page.items_of_decode? {document : Json} {page : Page Element}
    (decoded : Page.decode? element? document = some page) :
    ∀ item ∈ page.items, ∃ element, element? element = some item := by
  intro item item_mem
  simp only [Page.decode?, Option.bind_eq_bind, Option.bind_eq_some_iff] at decoded
  rcases decoded with ⟨fields, _, items, itemsRead, linked⟩
  have items_eq : page.items = items := by
    split at linked
    · simp at linked
    · simp only [Option.bind_eq_some_iff, Option.pure_def, Option.some.injEq] at linked
      rcases linked with ⟨_, _, _, _, rfl⟩
      rfl
  rw [items_eq] at item_mem
  cases listed : Members.find? "value" fields with
  | none =>
      obtain rfl : [] = items := by simpa [Json.withDefault, listed] using itemsRead
      simp at item_mem
  | some list =>
      have elementsRead : Json.list? element? list = some items := by
        simpa [Json.withDefault, listed] using itemsRead
      simp only [Json.list?, Option.bind_eq_some_iff] at elementsRead
      rcases elementsRead with ⟨elements, _, read⟩
      rcases exists_element_of_mem_readAll? read item_mem with ⟨element, _, elementRead⟩
      exact ⟨element, elementRead⟩

/-- Reading a list in pages sends no write, and every item of the list was read from an element. -/
theorem readPages_meets (what : String) (pages : Nat) (url : String) :
    (readPages element? what pages url).Meets .reading fun items =>
      ∀ item ∈ items, ∃ document, element? document = some item := by
  induction pages generalizing url with
  | zero => exact .exhausted
  | succ pages ih =>
      refine (readDocument_meets what url).bind ?_
      rintro page ⟨document, decoded⟩
      have pageItems := Page.items_of_decode? decoded
      cases page.link? with
      | none => exact Program.meets_pure pageItems
      | some next =>
          refine (ih next).bind ?_
          intro rest restItems
          refine Program.meets_pure ?_
          intro item item_mem
          rcases List.mem_append.mp item_mem with page_mem | rest_mem
          · exact pageItems item page_mem
          · exact restItems item rest_mem

end Reading

namespace Directory

variable {State : Type} {client : Client State} {directory : Directory} {applicationId : String}
  {now middle later : Run State} {listing : Collection Credential} {reads : List Exchange}

theorem fetchCredentials_meets (directory : Directory) (applicationId : String) :
    (directory.fetchCredentials applicationId).Meets .reading fun listing =>
      ∀ credential ∈ listing.items, ∃ document, decode? document = some credential :=
  (readPages_meets _ _ _).bind fun _ listed => Program.meets_pure listed

/-- A single request between a message and a result is all that is sent. -/
theorem runs_single_request {Result : Type} {answer : Except RemoteError Json} {state : State}
    {request : Request} (message : String) (describe : RemoteError → OperationError)
    (result : Json → Result) (sends : client.send request now.state = (answer, state)) :
    (do
      Program.progress message
      let document ← (Program.request request).mapFailure describe
      return result document : Program OperationError Result).Runs client now [⟨request, answer⟩]
        (((Ending.ofExcept answer).mapFailure describe).map result)
        ⟨state, now.ids, now.messages ++ [message]⟩ := by
  let announced : Run State := { now with messages := now.messages ++ [message] }
  have requested : (Program.request request).Runs client announced [⟨request, answer⟩]
      (Ending.ofExcept answer) { announced with state } := Program.runs_request sends
  exact Program.runs_progress.bind (requested.mapFailure describe).bind_return

/-- What is returned when a new credential was created. -/
def createdCredential (applicationId : String) (spec : CredentialSpec) (document : Json) :
    CredentialUpserted :=
  ⟨applicationId, spec.name, ((document.get? "id").bind Json.text?).getD "", true, true⟩

section Planned

variable {argument : String} {spec : CredentialSpec} {planned : Upserted Credential}
  {desired : Credential} {answer : Except RemoteError Json} {state : State}
  (given : Text.trim argument ≠ "") (valid : Specification.validate spec = .ok ())
  (fetched : (directory.fetchCredentials (Text.trim argument)).Runs client now reads
    (.returned listing) middle)
  (upserts : listing.upsert spec "" = .ok planned) (found : planned.item? = some desired)
include given valid fetched upserts found

/-- A credential that was planned anew is sent to the list. -/
theorem upsertCredential_creates (isNew : planned.wasCreated = true)
    (sends : client.send ⟨.post, directory.url (credentialsPath (Text.trim argument)),
      some desired.createBody⟩ middle.state = (answer, state)) :
    ∃ messages, (directory.upsertCredential argument spec).Runs client now
      (reads ++ [⟨⟨.post, directory.url (credentialsPath (Text.trim argument)),
        some desired.createBody⟩, answer⟩])
      (((Ending.ofExcept answer).mapFailure
        (.write { key := spec.name, itemId := none, position := none, state := .absent })).map
          (createdCredential (Text.trim argument) spec)) ⟨state, middle.ids, messages⟩ := by
  have runs := runs_single_request ("creating federated credential '" ++ spec.name ++ "'")
    (.write { key := spec.name, itemId := none, position := none, state := .absent })
    (createdCredential (Text.trim argument) spec) sends
  refine ⟨middle.messages ++ ["creating federated credential '" ++ spec.name ++ "'"], ?_⟩
  refine Program.Runs.bind_ok (Argument.required_of_trim_ne given)
    (Program.Runs.bind_ok valid (fetched.bind (Program.Runs.bind_ok upserts ?_)))
  simp only [found, isNew, if_true]
  exact runs

theorem upsertCredential_leaves (isOld : planned.wasCreated = false)
    (unchanged : ((listing.get? planned.itemId).any fun existing =>
      existing.sameSettings desired) = true) :
    (directory.upsertCredential argument spec).Runs client now reads
      (.returned ⟨Text.trim argument, spec.name, planned.itemId, false, false⟩) middle := by
  rw [← List.append_nil reads]
  refine Program.Runs.bind_ok (Argument.required_of_trim_ne given)
    (Program.Runs.bind_ok valid (fetched.bind (Program.Runs.bind_ok upserts ?_)))
  simp only [found, isOld, unchanged, if_true, Bool.false_eq_true, if_false]
  exact Program.runs_done

/-- A credential with other settings is changed at the endpoint with the planned id. -/
theorem upsertCredential_changes (isOld : planned.wasCreated = false)
    (changed : ((listing.get? planned.itemId).any fun existing =>
      existing.sameSettings desired) = false)
    (sends : client.send ⟨.patch, directory.url
      (credentialsPath (Text.trim argument) ++ "/" ++ planned.itemId), some desired.updateBody⟩
        middle.state = (answer, state)) :
    ∃ messages, (directory.upsertCredential argument spec).Runs client now
      (reads ++ [⟨⟨.patch, directory.url
        (credentialsPath (Text.trim argument) ++ "/" ++ planned.itemId),
          some desired.updateBody⟩, answer⟩])
      (((Ending.ofExcept answer).mapFailure
        (.write { key := spec.name, itemId := some planned.itemId, position := none
                  state := .present none })).map
          fun _ => ⟨Text.trim argument, spec.name, planned.itemId, false, true⟩)
      ⟨state, middle.ids, messages⟩ := by
  have runs := runs_single_request ("updating federated credential '" ++ spec.name ++ "'")
    (.write { key := spec.name, itemId := some planned.itemId, position := none
              state := .present none })
    (fun _ => CredentialUpserted.mk (Text.trim argument) spec.name planned.itemId false true) sends
  refine ⟨middle.messages ++ ["updating federated credential '" ++ spec.name ++ "'"], ?_⟩
  refine Program.Runs.bind_ok (Argument.required_of_trim_ne given)
    (Program.Runs.bind_ok valid (fetched.bind (Program.Runs.bind_ok upserts ?_)))
  simp only [found, isOld, changed, Bool.false_eq_true, if_false]
  exact runs

end Planned

theorem filter_isWrite_of_reads
    (onlyReads : ∀ exchange ∈ reads, exchange.request.isWrite = false) :
    reads.filter Exchange.isWrite = [] := by
  rw [List.filter_eq_nil_iff]
  intro exchange exchange_mem
  simpa [Exchange.isWrite] using onlyReads exchange exchange_mem

/-- Of reads followed by one more request that request is the only write. -/
theorem writes_of_reads (onlyReads : ∀ exchange ∈ reads, exchange.request.isWrite = false)
    {last : Exchange} (isWrite : last.isWrite = true) :
    ((reads ++ [last]).filter Exchange.isWrite).map Exchange.request = [last.request] := by
  simp [filter_isWrite_of_reads onlyReads, isWrite]

section Writes

variable {argument : String} {spec : CredentialSpec} {before after : List Credential}
  {existing : Credential} (given : Text.trim argument ≠ "")
  (valid : Specification.validate spec = .ok ())
  (fetched : (directory.fetchCredentials (Text.trim argument)).Runs client now reads
    (.returned listing) middle)
  (onlyReads : ∀ exchange ∈ reads, exchange.request.isWrite = false)
include given valid fetched onlyReads

/-- When no credential has the name, the new one is sent unless a credential without an id is found
in its place. -/
theorem creation_writes_iff
    (decoded : ∀ credential ∈ listing.items, ∃ document, decode? document = some credential)
    (absent : ∀ credential ∈ listing.items, credential.name ≠ spec.name)
    (upserts : listing.upsert spec "" =
      .ok ⟨⟨listing.items ++ [Specification.build spec ""]⟩, "", true⟩) :
    ∃ sent ending later,
      (directory.upsertCredential argument spec).Runs client now sent ending later ∧
      ((sent.filter Exchange.isWrite).map Exchange.request =
          directory.documentedWrites (Text.trim argument) listing spec ↔
        spec.FoundById listing) := by
  have isNamed : spec.named? listing = none := by
    rw [CredentialSpec.named?, List.find?_eq_none]
    intro credential credential_mem
    simpa using absent credential credential_mem
  cases lacking : listing.get? "" with
  | none =>
      have found : Upserted.item? (⟨⟨listing.items ++ [Specification.build spec ""]⟩, "", true⟩ :
          Upserted Credential) = some (Specification.build spec "") := by
        simp only [Upserted.item?, Collection.get?_append, lacking, Option.none_or]
        exact Collection.get?_cons_self rfl
      obtain ⟨messages, runs⟩ := upsertCredential_creates given valid fetched upserts found rfl rfl
      refine ⟨_, _, _, runs, ?_⟩
      rw [writes_of_reads onlyReads (by rfl)]
      simp [documentedWrites, isNamed, CredentialSpec.FoundById, lacking,
        Credential.createBody_build]
  | some other =>
      have found : Upserted.item? (⟨⟨listing.items ++ [Specification.build spec ""]⟩, "", true⟩ :
          Upserted Credential) = some other := by
        simp [Upserted.item?, Collection.get?_append, lacking]
      have other_mem : other ∈ listing.items := List.mem_of_find?_eq_some lacking
      rcases decoded other other_mem with ⟨document, read⟩
      have otherBody : other.createBody ≠ spec.creation :=
        Credential.createBody_ne_creation (Credential.unlisted_of_decode read)
          (absent other other_mem)
      obtain ⟨messages, runs⟩ := upsertCredential_creates given valid fetched upserts found rfl rfl
      refine ⟨_, _, _, runs, ?_⟩
      rw [writes_of_reads onlyReads (by rfl)]
      simp [documentedWrites, isNamed, CredentialSpec.FoundById, lacking, otherBody]

/-- When a credential has the name, it is changed unless an earlier one with the same id is found in
its place. -/
theorem replacement_writes_iff
    (holds : listing.HoldsOnly spec.name before existing after)
    (upserts : listing.upsert spec "" =
      .ok ⟨⟨before ++ Specification.build spec existing.id :: after⟩, existing.id, false⟩) :
    ∃ sent ending later,
      (directory.upsertCredential argument spec).Runs client now sent ending later ∧
      ((sent.filter Exchange.isWrite).map Exchange.request =
          directory.documentedWrites (Text.trim argument) listing spec ↔
        spec.FoundById listing) := by
  have isNamed : spec.named? listing = some existing := holds.find?_eq
  cases earlier : (⟨before⟩ : Collection Credential).get? existing.id with
  | none =>
      have found : Upserted.item? (⟨⟨before ++ Specification.build spec existing.id :: after⟩,
          existing.id, false⟩ : Upserted Credential) =
            some (Specification.build spec existing.id) := by
        simp only [Upserted.item?, Collection.get?_append, earlier, Option.none_or]
        exact Collection.get?_cons_self rfl
      have held : listing.get? existing.id = some existing := by
        obtain rfl : listing = ⟨before ++ existing :: after⟩ := by rw [← holds.items_eq]
        simp only [Collection.get?_append, earlier, Option.none_or]
        exact Collection.get?_cons_self rfl
      have foundById : spec.FoundById listing := by
        simp [CredentialSpec.FoundById, isNamed, held]
      cases settled : existing.hasSettings spec with
      | true =>
          have runs := upsertCredential_leaves given valid fetched upserts found rfl
            (by simp [held, Credential.sameSettings_build, settled])
          refine ⟨_, _, middle, runs, ?_⟩
          rw [filter_isWrite_of_reads onlyReads]
          simp [documentedWrites, isNamed, settled, foundById]
      | false =>
          obtain ⟨messages, runs⟩ := upsertCredential_changes given valid fetched upserts found rfl
            (by simp [held, Credential.sameSettings_build, settled]) rfl
          refine ⟨_, _, _, runs, ?_⟩
          rw [writes_of_reads onlyReads (by rfl)]
          simp [documentedWrites, isNamed, settled, foundById, Credential.updateBody_build]
  | some first =>
      have found : Upserted.item? (⟨⟨before ++ Specification.build spec existing.id :: after⟩,
          existing.id, false⟩ : Upserted Credential) = some first := by
        simp [Upserted.item?, Collection.get?_append, earlier]
      have held : listing.get? existing.id = some first := by
        obtain rfl : listing = ⟨before ++ existing :: after⟩ := by rw [← holds.items_eq]
        simp [Collection.get?_append, earlier]
      have different : first ≠ existing := by
        rintro rfl
        have before_mem : first ∈ before := List.mem_of_find?_eq_some earlier
        exact holds.others first (List.mem_append_left _ before_mem) holds.key_eq
      have runs := upsertCredential_leaves given valid fetched upserts found rfl
        (by simp [held, Credential.sameSettings_self])
      refine ⟨_, _, middle, runs, ?_⟩
      rw [filter_isWrite_of_reads onlyReads]
      simp [documentedWrites, CredentialSpec.FoundById, isNamed, held, different]

end Writes

/-- The documented writes are sent exactly when the planned credential is found by its id. -/
theorem upsertCredential_writes_iff (directory : Directory) (client : Client State)
    (now middle : Run State) (argument applicationId : String) (spec : CredentialSpec)
    (listing : Collection Credential) (reads : List Exchange)
    (named : Text.trim argument = applicationId) (given : applicationId ≠ "")
    (valid : Specification.validate spec = .ok ())
    (fetched : (directory.fetchCredentials applicationId).Runs client now reads
      (.returned listing) middle)
    (single : listing.countKey spec.name ≤ 1) :
    ∃ sent ending later,
      (directory.upsertCredential argument spec).Runs client now sent ending later ∧
      ((sent.filter Exchange.isWrite).map Exchange.request =
          directory.documentedWrites applicationId listing spec ↔ spec.FoundById listing) := by
  subst named
  obtain ⟨onlyReads, decoded⟩ := (fetchCredentials_meets directory _).of_runs fetched
    fun _ _ => trivial
  rcases Collection.exists_upsert "" valid single with ⟨planned, upserts⟩
  rcases Collection.upsert_cases upserts with ⟨before, existing, after, holds, rfl⟩ | ⟨absent, rfl⟩
  · exact replacement_writes_iff given valid fetched onlyReads holds upserts
  · exact creation_writes_iff given valid fetched onlyReads (decoded listing rfl) absent upserts

def sampleSpec : CredentialSpec := { name := "github-main", issuer := "https://i", subject := "s1" }

/-- A listing with one credential, which has another name and no id. -/
def sampleListing : Collection Credential :=
  ⟨[⟨"", "other", "https://other", "s0", ["x"], none, []⟩]⟩

/-- A run that starts with an application whose credentials are the listing. -/
def sampleRun : Run Replica :=
  ⟨(Replica.empty ⟨fun _ => "new", 0⟩).withDocument
    "https://directory/applications/a1/federatedIdentityCredentials/f1"
    (encode (⟨"", "other", "https://other", "s0", ["x"], none, []⟩ : Credential)),
    ⟨fun _ => "new", 0⟩, []⟩

/-- The condition decides about the writes for the listing of one credential without an id. -/
theorem upsertCredential_writes_iff_sample :
    ∃ sent ending later,
      ((⟨"https://directory", 1⟩ : Directory).upsertCredential "a1" sampleSpec).Runs Client.replica
        sampleRun sent ending later ∧
      ((sent.filter Exchange.isWrite).map Exchange.request =
          (⟨"https://directory", 1⟩ : Directory).documentedWrites "a1" sampleListing sampleSpec ↔
        sampleSpec.FoundById sampleListing) :=
  upsertCredential_writes_iff ⟨"https://directory", 1⟩ Client.replica sampleRun _ "a1" "a1"
    sampleSpec sampleListing _ (by decide) (by decide) rfl (Program.runs_of_ending rfl)
    (by decide)

/-- A credential without an id is sent in the place of the new one. -/
theorem upsertCredential_sends_other :
    (((⟨"https://directory", 1⟩ : Directory).fetchCredentials "a1").run Client.replica
        sampleRun).1 = .returned sampleListing ∧
      Specification.validate sampleSpec = .ok () ∧
      sampleSpec.named? sampleListing = none ∧
      ((((⟨"https://directory", 1⟩ : Directory).upsertCredential "a1" sampleSpec).exchanges
        Client.replica sampleRun).filter Exchange.isWrite).map Exchange.request ≠
          [⟨.post, "https://directory/applications/a1/federatedIdentityCredentials",
            some sampleSpec.creation⟩] := by
  refine ⟨rfl, rfl, rfl, ?_⟩
  decide +kernel

end Directory

end Provision
