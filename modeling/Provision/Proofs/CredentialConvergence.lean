import Provision.Proofs.CredentialListing

/-!
# An upsert of a credential converges

An upsert that returned has brought the list of the credentials up to date: a
credential with a new name was added at the end, and one with a known name got
the settings of the specification in its place.  What is stored is what the next
upsert of the same specification compares with, so that one finds nothing left
to write.
-/

namespace Provision

open Replica (IsSegment)

/-- What an upsert makes of the credentials of an application: the one that it reports is new and
comes last, or it has been there and only its settings are replaced. -/
inductive CredentialSpec.Settles (spec : CredentialSpec) (reported : CredentialUpserted) :
    List Credential → List Credential → Prop where
  | added {credentials : List Credential} {created : Credential}
      (absent : ∀ credential ∈ credentials, credential.name ≠ spec.name)
      (isNew : reported.wasCreated = true) (hasId : created.id = reported.credentialId)
      (hasName : created.name = spec.name) (hasSettings : created.hasSettings spec = true) :
      Settles spec reported credentials (credentials ++ [created])
  | replaced {before after : List Credential} {existing : Credential}
      (hasName : existing.name = spec.name) (isOld : reported.wasCreated = false)
      (hasId : existing.id = reported.credentialId) :
      Settles spec reported (before ++ existing :: after)
        (before ++ existing.settle spec :: after)

theorem CredentialSpec.Settles.exists_settled {spec : CredentialSpec}
    {reported : CredentialUpserted} {credentials credentialsLater : List Credential}
    (settles : spec.Settles reported credentials credentialsLater) :
    ∃ settled ∈ credentialsLater, settled.id = reported.credentialId ∧
      settled.name = spec.name ∧ settled.hasSettings spec = true := by
  cases settles with
  | @added _ created _ _ hasId hasName hasSettings =>
      exact ⟨created, by simp, hasId, hasName, hasSettings⟩
  | @replaced _ _ existing hasName _ hasId =>
      exact ⟨existing.settle spec, by simp, hasId, hasName, existing.hasSettings_settle spec⟩

namespace Directory

variable {directory : Directory} {applicationId argument : String} {spec : CredentialSpec}
  {now middle later : Run Replica} {credentials before after : List Credential}
  {existing : Credential} {reported : CredentialUpserted} {reads sent : List Exchange}

/-- The request that reads the credentials of the application that an argument names. -/
def credentialsRequest (directory : Directory) (argument : String) : Request :=
  ⟨.get, directory.url (credentialsPath (Text.trim argument)), none⟩

/-- How the credentials of an application are found when they are up to date with a specification.
A failure that is due for a read is the only thing that keeps an operation from returning. -/
structure UpToDate (directory : Directory) (argument : String) (spec : CredentialSpec)
    (reported : CredentialUpserted) (credentials : List Credential) (now : Run Replica) : Prop where
  listed : now.state.due? (directory.credentialsRequest argument) = none →
    ∃ reads later, (directory.listCredentials argument none).Runs Client.replica now reads
      (.returned credentials) later
  writesNothing : ∀ {sent ending later},
    (directory.upsertCredential argument spec).Runs Client.replica now sent ending later →
      sent.filter Exchange.isWrite = []
  returns : now.state.due? (directory.credentialsRequest argument) = none →
    ∃ sent later, (directory.upsertCredential argument spec).Runs Client.replica now sent
      (.returned reported) later

theorem fetched_of_upsert {State : Type} {client : Client State} {now later : Run State}
    (runs : (directory.upsertCredential argument spec).Runs client now sent (.returned reported)
      later) :
    Text.trim argument ≠ "" ∧ Specification.validate spec = .ok () ∧ ∃ reads listing middle,
      (directory.fetchCredentials (Text.trim argument)).Runs client now reads (.returned listing)
        middle := by
  rcases runs.of_check with ⟨_, _, _, ⟨⟩, _⟩ | ⟨trimmed, accepted, validated⟩
  rcases validated.of_check with ⟨_, _, _, ⟨⟩, _⟩ | ⟨⟨⟩, valid, fetches⟩
  rcases fetches.of_bind with ⟨reads, _, listing, middle, _, fetched, _⟩ | ⟨_, ⟨⟩, _⟩ | ⟨⟨⟩, _⟩
  obtain ⟨rfl, given⟩ := Argument.eq_trim_of_required accepted
  exact ⟨given, valid, reads, listing, middle, fetched⟩

theorem served_of_returned {Failure Other Result Next : Type} {describe : Failure → Other}
    {change : Result → Next} {answer : Except Failure Result} {result : Next}
    (returned : .returned result = ((Ending.ofExcept answer).mapFailure describe).map change) :
    ∃ document, answer = .ok document ∧ result = change document := by
  cases answer with
  | ok document => exact ⟨document, rfl, Ending.returned.inj returned⟩
  | error failure => cases returned

theorem paged_of_fetched {State : Type} {client : Client State} {now middle : Run State}
    {listing : Collection Credential}
    (fetched : (directory.fetchCredentials applicationId).Runs client now reads
      (.returned listing) middle) : directory.pageLimit ≠ 0 := by
  intro noPages
  have run_eq := fetched.run_eq
  simp [fetchCredentials, list, noPages, readPages, bind, Program.bind, Program.run] at run_eq

theorem onlyReads_of_fetched {ending : Ending OperationError (Collection Credential)}
    (fetched : (directory.fetchCredentials applicationId).Runs Client.replica now reads ending
      middle) : ∀ exchange ∈ reads, exchange.isWrite = false :=
  ((fetchCredentials_meets directory applicationId).of_runs fetched fun _ _ => trivial).1

theorem leads_of_runs
    (runs : (directory.upsertCredential argument spec).Runs Client.replica now sent
      (.returned reported) later) : Replica.Leads sent now.state later.state := by
  rw [← Client.interrupted_never] at runs
  exact Replica.leads_of_runs runs

namespace HoldsCredentials

theorem plan_of_present (holds : directory.HoldsCredentials applicationId now.state
      (before ++ existing :: after)) (valid : Specification.validate spec = .ok ())
    (hasName : existing.name = spec.name) :
    let planned : Upserted Credential :=
      ⟨⟨before ++ Specification.build spec existing.id :: after⟩, existing.id, false⟩
    (⟨before ++ existing :: after⟩ : Collection Credential).upsert spec "" = .ok planned ∧
      planned.item? = some (Specification.build spec existing.id) ∧
      (⟨before ++ existing :: after⟩ : Collection Credential).get? existing.id =
        some existing := by
  have apart : ∀ other ∈ before, other.id ≠ existing.id := by
    intro other other_mem
    exact ne_of_mem_others holds.distinctIds (List.mem_append_left _ other_mem)
  exact ⟨holds.distinctNames.upsert_eq hasName valid "", Collection.get?_split rfl rfl apart,
    Collection.get?_split rfl rfl apart⟩

theorem plan_of_absent (holds : directory.HoldsCredentials applicationId now.state credentials)
    (valid : Specification.validate spec = .ok ())
    (absent : ∀ credential ∈ credentials, credential.name ≠ spec.name) :
    let planned : Upserted Credential :=
      ⟨⟨credentials ++ [Specification.build spec ""]⟩, "", true⟩
    (⟨credentials⟩ : Collection Credential).upsert spec "" = .ok planned ∧
      planned.item? = some (Specification.build spec "") := by
  refine ⟨Collection.upsert_eq_of_absent absent valid "", ?_⟩
  -- it is looked up by its empty id, which no stored credential has
  apply Collection.get?_split rfl rfl
  intro credential credential_mem
  exact (holds.document_of_mem credential_mem).1.given

theorem runs_list (holds : directory.HoldsCredentials applicationId now.state credentials)
    (paged : directory.pageLimit ≠ 0) (given : Text.trim argument = applicationId)
    (notBlank : applicationId ≠ "") (someHeld : credentials ≠ [])
    (noneDue : now.state.due? (directory.credentialsRequest argument) = none) :
    ∃ reads later, (directory.listCredentials argument none).Runs Client.replica now reads
      (.returned credentials) later := by
  subst given
  rcases holds.runs_fetch paged with ⟨reads, middle, fetched⟩ | ⟨_, _, _, _, nothing⟩
  · refine ⟨reads ++ [], middle, ?_⟩
    exact Program.Runs.bind_ok (Argument.required_of_trim_ne notBlank)
      (fetched.bind Program.runs_done)
  · exact absurd (nothing noneDue) someHeld

section Fetched

variable (given : Text.trim argument = applicationId) (notBlank : applicationId ≠ "")
  (valid : Specification.validate spec = .ok ())
include given notBlank valid

theorem runs_settled (holds : directory.HoldsCredentials applicationId now.state credentials)
    (existing_mem : existing ∈ credentials) (hasName : existing.name = spec.name)
    (settled : existing.hasSettings spec = true)
    (fetched : (directory.fetchCredentials applicationId).Runs Client.replica now reads
      (.returned ⟨credentials⟩) middle) :
    (directory.upsertCredential argument spec).Runs Client.replica now reads
      (.returned ⟨applicationId, spec.name, existing.id, false, false⟩) middle := by
  subst given
  rcases List.append_of_mem existing_mem with ⟨before, after, rfl⟩
  obtain ⟨planned, desired, held⟩ := holds.plan_of_present valid hasName
  exact upsertCredential_leaves notBlank valid fetched planned desired rfl
    (by simp [held, Credential.sameSettings_build, settled])

/-- A credential with the name keeps its place and gets the settings. -/
theorem settles_present
    (holds : directory.HoldsCredentials applicationId now.state (before ++ existing :: after))
    (hasName : existing.name = spec.name)
    (fetched : (directory.fetchCredentials applicationId).Runs Client.replica now reads
      (.returned ⟨before ++ existing :: after⟩) middle)
    (runs : (directory.upsertCredential argument spec).Runs Client.replica now sent
      (.returned reported) later) :
    spec.Settles reported (before ++ existing :: after) (before ++ existing.settle spec :: after) ∧
      directory.HoldsCredentials applicationId later.state
        (before ++ existing.settle spec :: after) := by
  have onlyReads := onlyReads_of_fetched fetched
  have leads := leads_of_runs runs
  cases settled : existing.hasSettings spec with
  | true =>
      have leaves := runs_settled given notBlank valid holds (by simp) hasName settled fetched
      obtain ⟨rfl, ⟨⟩, rfl⟩ := runs.unique leaves
      have unchanged := leads.unchanged fun exchange read_mem isWrite => by
        simp [onlyReads exchange read_mem] at isWrite
      refine ⟨.replaced hasName rfl rfl, ?_⟩
      rw [Credential.settle_of_hasSettings settled]
      exact holds.of_documents_eq unchanged.1
  | false =>
      subst given
      obtain ⟨planned, desired, held⟩ := holds.plan_of_present valid hasName
      obtain ⟨messages, changes⟩ := upsertCredential_changes notBlank valid fetched planned desired
        rfl (by simp [held, Credential.sameSettings_build, settled]) rfl
      obtain ⟨rfl, ended, -⟩ := runs.unique changes
      obtain ⟨answer, answered, rfl⟩ := served_of_returned ended
      rw [answered] at leads
      obtain ⟨earlier, final, documents, -, handles, finished⟩ :=
        leads.single_write onlyReads (by simp)
      rw [Credential.updateBody_build] at handles
      have replaced := (holds.of_documents_eq documents).of_replacement handles
      exact ⟨.replaced hasName rfl rfl, replaced.of_documents_eq finished⟩

/-- A credential with a new name comes last. -/
theorem settles_absent (holds : directory.HoldsCredentials applicationId now.state credentials)
    (absent : ∀ credential ∈ credentials, credential.name ≠ spec.name)
    (segment : IsSegment now.state.ids.current) (unused : now.state.NextIdUnused)
    (fetched : (directory.fetchCredentials applicationId).Runs Client.replica now reads
      (.returned ⟨credentials⟩) middle)
    (runs : (directory.upsertCredential argument spec).Runs Client.replica now sent
      (.returned reported) later) :
    ∃ created, spec.Settles reported credentials (credentials ++ [created]) ∧
      directory.HoldsCredentials applicationId later.state (credentials ++ [created]) := by
  subst given
  have leads := leads_of_runs runs
  obtain ⟨planned, desired⟩ := holds.plan_of_absent valid absent
  obtain ⟨messages, creates⟩ := upsertCredential_creates notBlank valid fetched planned desired
    rfl rfl
  obtain ⟨rfl, ended, -⟩ := runs.unique creates
  obtain ⟨document, answered, rfl⟩ := served_of_returned ended
  rw [answered] at leads
  obtain ⟨earlier, final, documents, ids, handles, finished⟩ :=
    leads.single_write (onlyReads_of_fetched fetched) (by simp)
  rw [Credential.createBody_build] at handles
  -- no read draws an id, so the one that the list gives is the next one of the start
  rw [← ids] at segment
  have unusedId : earlier.documents.has
      (directory.credentialPath (Text.trim argument) earlier.ids.current) = false := by
    rw [documents, ids]
    exact unused _
  obtain ⟨created, hasId, hasName, hasSettings, held⟩ :=
    (holds.of_documents_eq documents).of_creation segment unusedId absent handles
  have sameId :
      created.id = (createdCredential (Text.trim argument) spec document).credentialId := by
    simp [createdCredential, hasId]
  exact ⟨created, .added absent rfl sameId hasName hasSettings, held.of_documents_eq finished⟩

/-- Once a credential with the name has the settings, all is up to date. -/
theorem upToDate (holds : directory.HoldsCredentials applicationId now.state credentials)
    (paged : directory.pageLimit ≠ 0) (existing_mem : existing ∈ credentials)
    (hasName : existing.name = spec.name) (settled : existing.hasSettings spec = true) :
    directory.UpToDate argument spec ⟨applicationId, spec.name, existing.id, false, false⟩
      credentials now := by
  have someHeld : credentials ≠ [] := List.ne_nil_of_mem existing_mem
  have listed := holds.runs_list paged given notBlank someHeld
  rcases holds.runs_fetch paged with
    ⟨reads, middle, fetched⟩ | ⟨reads, failure, middle, refused, nothing⟩
  · have leaves := runs_settled given notBlank valid holds existing_mem hasName settled fetched
    refine ⟨listed, ?_, fun _ => ⟨reads, middle, leaves⟩⟩
    intro sent ending later runs
    obtain ⟨rfl, -, -⟩ := runs.unique leaves
    exact filter_isWrite_of_reads (onlyReads_of_fetched fetched)
  · subst given
    have fails : (directory.upsertCredential argument spec).Runs Client.replica now reads
        (.failed failure) middle :=
      Program.Runs.bind_ok (Argument.required_of_trim_ne notBlank)
        (Program.Runs.bind_ok valid refused.bind_failed)
    refine ⟨listed, ?_, fun noneDue => absurd (nothing noneDue) someHeld⟩
    intro sent ending later runs
    obtain ⟨rfl, -, -⟩ := runs.unique fails
    exact filter_isWrite_of_reads (onlyReads_of_fetched refused)

end Fetched

end HoldsCredentials

/-- An upsert that returned leaves the credentials that it settled. -/
theorem exists_settled_of_upsert (named : Text.trim argument = applicationId)
    (holds : directory.HoldsCredentials applicationId now.state credentials)
    (segment : IsSegment now.state.ids.current) (unused : now.state.NextIdUnused)
    (runs : (directory.upsertCredential argument spec).Runs Client.replica now sent
      (.returned reported) later) :
    ∃ credentialsLater, spec.Settles reported credentials credentialsLater ∧
      directory.HoldsCredentials applicationId later.state credentialsLater := by
  obtain ⟨notBlank, valid, reads, listing, middle, fetched⟩ := fetched_of_upsert runs
  rw [named] at notBlank fetched
  obtain rfl : listing = ⟨credentials⟩ := by
    rcases holds.runs_fetch (paged_of_fetched fetched) with
      ⟨_, _, asHeld⟩ | ⟨_, _, _, refused, -⟩
    · exact Ending.returned.inj (fetched.unique asHeld).2.1
    · cases (fetched.unique refused).2.1
  by_cases present : ∃ existing ∈ credentials, existing.name = spec.name
  · rcases present with ⟨existing, existing_mem, hasName⟩
    rcases List.append_of_mem existing_mem with ⟨before, after, rfl⟩
    exact ⟨_, holds.settles_present named notBlank valid hasName fetched runs⟩
  · have absent : ∀ credential ∈ credentials, credential.name ≠ spec.name := by
      intro credential credential_mem hasName
      exact present ⟨credential, credential_mem, hasName⟩
    obtain ⟨created, settles, held⟩ := holds.settles_absent named notBlank valid absent segment
      unused fetched runs
    exact ⟨_, settles, held⟩

/-- An upsert that returned has settled the credential that it reports and no other, and running it
again finds the credentials up to date. -/
theorem upsertCredential_converges (directory : Directory) (now later : Run Replica)
    (argument applicationId : String) (spec : CredentialSpec) (credentials : List Credential)
    (reported : CredentialUpserted) (sent : List Exchange)
    (named : Text.trim argument = applicationId)
    (holds : directory.HoldsCredentials applicationId now.state credentials)
    (segment : IsSegment now.state.ids.current) (unused : now.state.NextIdUnused)
    (runs : (directory.upsertCredential argument spec).Runs Client.replica now sent
      (.returned reported) later) :
    ∃ credentialsLater, spec.Settles reported credentials credentialsLater ∧
      directory.HoldsCredentials applicationId later.state credentialsLater ∧
      directory.UpToDate argument spec
        ⟨applicationId, spec.name, reported.credentialId, false, false⟩ credentialsLater later := by
  obtain ⟨credentialsLater, settles, held⟩ :=
    exists_settled_of_upsert named holds segment unused runs
  obtain ⟨notBlank, valid, reads, listing, middle, fetched⟩ := fetched_of_upsert runs
  rw [named] at notBlank fetched
  obtain ⟨settled, settled_mem, hasId, hasName, hasSettings⟩ := settles.exists_settled
  have upToDate := held.upToDate named notBlank valid (paged_of_fetched fetched) settled_mem hasName
    hasSettings
  rw [hasId] at upToDate
  exact ⟨credentialsLater, settles, held, upToDate⟩

/-- A credential with the name of the sample and with other settings. -/
def staleCredential : Credential :=
  ⟨"f1", "github-main", "https://i", "s0", ["x"], some "Deploys", [("kind", .string "k")]⟩

/-- A replica with an application and one credential of it. -/
def staleReplica : Replica :=
  ((Replica.empty ⟨fun _ => "new", 0⟩).withDocument "https://directory/applications/a1"
    (.object [])).withDocument "https://directory/applications/a1/federatedIdentityCredentials/f1"
      (encode staleCredential)

theorem holdsCredentials_staleReplica :
    (⟨"https://directory", 1⟩ : Directory).HoldsCredentials "a1" staleReplica
      [staleCredential] where
  application := rfl
  noList := rfl
  distinctPaths := by decide
  stored := .cons ⟨rfl, ⟨by decide, by decide, by decide, by decide⟩, rfl⟩ .nil
  distinctNames := List.nodup_singleton _

theorem nextIdUnused_staleReplica : staleReplica.NextIdUnused := by
  intro path
  rw [Replica.Documents.has_eq_false_iff]
  intro path_mem
  have lastOfNew : (path ++ "/" ++ "new").toList.getLast? = some 'w' := by simp
  have lastOfStored : ∀ stored ∈ staleReplica.documents.map Prod.fst,
      stored.toList.getLast? ≠ some 'w' := by decide
  exact lastOfStored _ path_mem lastOfNew

/-- The credential of the sample gets new settings and no description, and is left alone then. -/
theorem upsertCredential_converges_sample :
    ∃ sent later, ((⟨"https://directory", 1⟩ : Directory).upsertCredential " a1" sampleSpec).Runs
        Client.replica ⟨staleReplica, ⟨fun _ => "new", 0⟩, []⟩ sent
          (.returned ⟨"a1", "github-main", "f1", false, true⟩) later ∧
      ∃ credentialsLater,
        sampleSpec.Settles ⟨"a1", "github-main", "f1", false, true⟩ [staleCredential]
          credentialsLater ∧
        (⟨"https://directory", 1⟩ : Directory).HoldsCredentials "a1" later.state credentialsLater ∧
        (⟨"https://directory", 1⟩ : Directory).UpToDate " a1" sampleSpec
          ⟨"a1", "github-main", "f1", false, false⟩ credentialsLater later := by
  have ends : (((⟨"https://directory", 1⟩ : Directory).upsertCredential " a1" sampleSpec).run
      Client.replica ⟨staleReplica, ⟨fun _ => "new", 0⟩, []⟩).1 =
        .returned ⟨"a1", "github-main", "f1", false, true⟩ := rfl
  refine ⟨_, _, Program.runs_of_ending ends, ?_⟩
  exact upsertCredential_converges ⟨"https://directory", 1⟩
    ⟨staleReplica, ⟨fun _ => "new", 0⟩, []⟩ _ " a1" "a1" sampleSpec [staleCredential]
    ⟨"a1", "github-main", "f1", false, true⟩ _ (by decide) holdsCredentials_staleReplica
    ⟨by decide, by decide, by decide, by decide⟩ nextIdUnused_staleReplica
    (Program.runs_of_ending ends)

end Directory

end Provision
