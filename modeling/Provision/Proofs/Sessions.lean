import Mathlib.Logic.Function.Basic
import Provision.Proofs.Changes

/-!
# Sessions of changes

A session makes changes to applications, one run after the other, and each run
starts from what the one before it left.  The attributes of all applications
follow the plans, which are made for the attributes alone: a run is seen to do
what its plan says, and does not touch the other attribute or any other
application.
-/

namespace Provision

/-- A change to be made to an application, with the fresh ids on offer. -/
structure Errand where
  application : String
  change : Change
  ids : IdSupply

/-- What can be seen of a run: how it ends, and the verbs of its writes. -/
structure Observation where
  ending : Ending OperationError Outcome
  writes : List Verb

/-- Runs errands against a replica, and keeps what is seen of each run and what it leaves. -/
def Directory.session (directory : Directory) :
    List Errand → Replica → List (Observation × Replica)
  | [], _ => []
  | errand :: rest, replica =>
    let program := directory.change errand.application errand.change
    let start : Run Replica := ⟨replica, errand.ids, []⟩
    let (ending, later) := program.run Client.replica start
    let writes := (program.exchanges Client.replica start).filter Exchange.isWrite
    (⟨ending, writes.map (·.request.verb)⟩, later.state) :: directory.session rest later.state

namespace Attributes

/-- Plans an errand for the applications by id: a change that is refused changes nothing. -/
def stepPlanned (applications : String → Attributes) (errand : Errand) :
    Observation × (String → Attributes) :=
  let objectId := Text.trim errand.application
  match (applications objectId).plan errand.ids.current errand.change with
  | .ok planned =>
    (⟨.returned planned.outcome, List.replicate planned.patches .patch⟩,
      Function.update applications objectId planned.attributes)
  | .error error => (⟨.failed (.plan error), []⟩, applications)

def sessionPlanned :
    List Errand → (String → Attributes) → List (Observation × (String → Attributes))
  | [], _ => []
  | errand :: rest, applications =>
    stepPlanned applications errand :: sessionPlanned rest (stepPlanned applications errand).2

end Attributes

/-- A run shows what its plan says, and the applications held by the replica show the planned
attributes. -/
structure Agrees (directory : Directory) (held : String → Prop) (seen : Observation × Replica)
    (planned : Observation × (String → Attributes)) : Prop where
  observation : seen.1 = planned.1
  attributes : ∀ objectId, held objectId →
    (seen.2.document? (directory.applicationUrl objectId)).bind Attributes.ofDocument? =
      some (planned.2 objectId)

/-- A replica without failures due holds applications that show certain attributes. -/
structure Shows (directory : Directory) (held : String → Prop) (applications : String → Attributes)
    (replica : Replica) : Prop where
  quiet : replica.failures = []
  bears : ∀ objectId, held objectId → ∃ members,
    replica.document? (directory.applicationUrl objectId) = some (.object members) ∧
      Bears members objectId (applications objectId)

section Sessions

variable {directory : Directory} {held : String → Prop} {applications : String → Attributes}
  {replica later : Replica} {objectId other : String} {attributes : Attributes} {patches : Nat}
  {sent : List Exchange}

/-- Applications with different ids are held in different places. -/
theorem Shows.apart (shows : Shows directory held applications replica) (isHeld : held objectId)
    (otherHeld : held other) (different : other ≠ objectId) :
    (Replica.Location.ofUrl (directory.applicationUrl other)).path ≠
      (Replica.Location.ofUrl (directory.applicationUrl objectId)).path := by
  intro samePath
  rcases shows.bears objectId isHeld with ⟨members, stored, bears⟩
  rcases shows.bears other otherHeld with ⟨otherMembers, otherStored, otherBears⟩
  rw [Replica.document?, samePath] at otherStored
  obtain rfl : members = otherMembers := by simpa [Replica.document?, otherStored] using stored.symm
  have sameId : objectId = other := by simpa [bears.id] using otherBears.id
  exact different sameId.symm

/-- What becomes of one application is not seen in the others. -/
theorem Shows.update (shows : Shows directory held applications replica) (isHeld : held objectId)
    (became : Became directory objectId attributes patches sent replica later) :
    Shows directory held (Function.update applications objectId attributes) later := by
  refine ⟨became.quiet, ?_⟩
  intro other otherHeld
  rcases became.stored with ⟨members, changed, bears⟩
  by_cases same : other = objectId
  · subst same
    exact ⟨members, changed.here, by simpa using bears⟩
  · rcases shows.bears other otherHeld with ⟨otherMembers, otherStored, otherBears⟩
    refine ⟨otherMembers, ?_, by simpa [Function.update_of_ne same] using otherBears⟩
    rw [changed.elsewhere _ (shows.apart isHeld otherHeld same)]
    exact otherStored

/-- One run of a session shows what its plan says and leaves the planned attributes. -/
theorem Shows.step (shows : Shows directory held applications replica) {errand : Errand}
    (isHeld : held (Text.trim errand.application)) (given : Text.trim errand.application ≠ "") :
    ∃ sent ending last,
      (directory.change errand.application errand.change).Runs Client.replica
        ⟨replica, errand.ids, []⟩ sent ending last ∧
      Observation.mk ending ((sent.filter Exchange.isWrite).map (·.request.verb)) =
        (Attributes.stepPlanned applications errand).1 ∧
      Shows directory held (Attributes.stepPlanned applications errand).2 last.state := by
  rcases shows.bears _ isHeld with ⟨members, stored, bears⟩
  let start : Run Replica := ⟨replica, errand.ids, []⟩
  have storedThen : start.state.document?
      (directory.applicationUrl (Text.trim errand.application)) = some (.object members) := stored
  rcases change_follows bears shows.quiet storedThen rfl given errand.change with
    ⟨sent, ending, last, runs, follows⟩
  refine ⟨sent, ending, last, runs, ?_⟩
  have current : start.ids.current = errand.ids.current := rfl
  unfold Attributes.stepPlanned
  rw [current] at follows
  cases planned : (applications (Text.trim errand.application)).plan errand.ids.current
      errand.change with
  | ok planned =>
      simp only [Follows, planned] at follows
      rcases follows with ⟨rfl, became⟩
      simp only [planned]
      exact ⟨by rw [became.verbs], shows.update isHeld became⟩
  | error error =>
      simp only [Follows, planned] at follows
      rcases follows with ⟨rfl, became⟩
      have showsSame := shows.update isHeld became
      rw [Function.update_eq_self] at showsSame
      simp only [planned]
      exact ⟨by rw [became.verbs, List.replicate_zero], showsSame⟩

/-- What a document shows is read off its members. -/
theorem Bears.ofDocument? {members : List (String × Json)}
    (bears : Bears members objectId attributes) :
    Attributes.ofDocument? (.object members) = some attributes := by
  simp [Attributes.ofDocument?, Directory.applicationIds?, Json.fields?, Json.required, bears.id,
    Json.text?, bears.appId, bears.scopes, bears.uris]

theorem Shows.of_documents (quiet : replica.failures = [])
    (stored : ∀ objectId, held objectId → ∃ document,
      replica.document? (directory.applicationUrl objectId) = some document ∧ document.Ordered ∧
        document.get? "id" = some (.string objectId) ∧
        Attributes.ofDocument? document = some (applications objectId)) :
    Shows directory held applications replica := by
  refine ⟨quiet, ?_⟩
  intro objectId isHeld
  rcases stored objectId isHeld with ⟨document, isStored, ordered, ownId, shown⟩
  cases document with
  | object members =>
      refine ⟨members, isStored, ?_⟩
      have idFound : Members.find? "id" members = some (.string objectId) := by
        simpa [Json.get?, Json.members?] using ownId
      simp only [Attributes.ofDocument?, Directory.applicationIds?, Json.fields?, Json.required,
        idFound, Option.bind_eq_bind, Option.bind_some, Json.text?, Option.bind_eq_some_iff,
        Option.pure_def, Option.some.injEq] at shown
      rcases shown with ⟨_, ⟨appId, appIdFound, rfl⟩, scopes, scopesFound, uris, urisFound, shows⟩
      rw [← shows]
      exact ⟨idFound, appIdFound, scopesFound, urisFound,
        ItemSet.lossless_items_of_extract? ordered scopesFound⟩
  | _ => simp [Json.get?, Json.members?] at ownId

/-- Every run of a session ends, writes and leaves the attributes of all applications as the plan
says. -/
theorem session_follows_plan (directory : Directory) (held : String → Prop)
    (applications : String → Attributes) (errands : List Errand) (replica : Replica)
    (quiet : replica.failures = [])
    (stored : ∀ objectId, held objectId → ∃ document,
      replica.document? (directory.applicationUrl objectId) = some document ∧ document.Ordered ∧
        document.get? "id" = some (.string objectId) ∧
        Attributes.ofDocument? document = some (applications objectId))
    (addressed : ∀ errand ∈ errands,
      held (Text.trim errand.application) ∧ Text.trim errand.application ≠ "") :
    List.Forall₂ (Agrees directory held) (directory.session errands replica)
      (Attributes.sessionPlanned errands applications) := by
  have shows : Shows directory held applications replica := Shows.of_documents quiet stored
  clear quiet stored
  -- induction on the errands: each run finds the applications as the plan before it left them
  induction errands generalizing replica applications with
  | nil => exact .nil
  | cons errand rest ih =>
      rcases addressed errand (by simp) with ⟨isHeld, given⟩
      rcases shows.step isHeld given with ⟨sent, ending, last, runs, observed, showsLater⟩
      have restAgrees := ih _ last.state (fun later later_mem =>
        addressed later (List.mem_cons_of_mem _ later_mem)) showsLater
      have session_eq : directory.session (errand :: rest) replica =
          (⟨ending, (sent.filter Exchange.isWrite).map (·.request.verb)⟩, last.state) ::
            directory.session rest last.state := by
        simp only [Directory.session, runs.run_eq, runs.exchanges_eq]
      rw [session_eq]
      refine .cons ⟨observed, ?_⟩ restAgrees
      intro objectId isHeld
      rcases showsLater.bears objectId isHeld with ⟨members, isStored, bears⟩
      rw [isStored]
      exact bears.ofDocument?

end Sessions

section Samples

def sampleIds : IdSupply := ⟨fun _ => "s1", 0⟩

/-- A replica that holds two applications, the second one with an identifier URI. -/
def sampleHolder : Replica :=
  ((Replica.empty sampleIds).withDocument "https://directory/applications/a1"
    (.object [("appId", .string "c1"), ("id", .string "a1")])).withDocument
      "https://directory/applications/a2"
      (.object [("id", .string "a2"), ("identifierUris", .array [.string "api://x"])])

def sampleErrands : List Errand :=
  [⟨" a1", .upsertScope {
      value := "read"
      adminConsentDisplayName := some "Read"
      adminConsentDescription := some "Read all" }, sampleIds⟩,
    ⟨"a2", .removeUri "api://x", sampleIds⟩, ⟨"a1", .addUri none, sampleIds⟩]

/-- A session with both applications follows its plan. -/
theorem session_follows_plan_sample :
    List.Forall₂
      (Agrees ⟨"https://directory", 1⟩ fun objectId => objectId = "a1" ∨ objectId = "a2")
      ((⟨"https://directory", 1⟩ : Directory).session sampleErrands sampleHolder)
      (Attributes.sessionPlanned sampleErrands fun objectId =>
        if objectId = "a1" then ⟨"c1", ⟨[]⟩, ⟨[]⟩⟩ else ⟨"", ⟨[]⟩, ⟨[⟨"api://x"⟩]⟩⟩) := by
  refine session_follows_plan _ _ _ _ _ rfl ?_ ?_
  · rintro objectId (rfl | rfl)
    · exact ⟨_, rfl, by decide, rfl, rfl⟩
    · exact ⟨_, rfl, by decide, rfl, rfl⟩
  · decide

/-- An application whose client id is no text is not fetched, though its attributes can be read and
the change can be planned. -/
theorem upsertScope_needs_client_id :
    let document := Json.object [("appId", .null), ("id", .string "a1")]
    let spec : ScopeSpec := {
      value := "read.all"
      adminConsentDisplayName := some "Read"
      adminConsentDescription := some "Read all" }
    let held := (Replica.empty sampleIds).withDocument "https://directory/applications/a1" document
    document.get? "id" = some (.string "a1") ∧
      ItemSet.permissionScopes.extract? document = some ⟨[]⟩ ∧
      ItemSet.identifierUris.extract? document = some ⟨[]⟩ ∧
      (((⟨[]⟩ : Collection Scope).upsert spec "s1").map Upserted.wasCreated) = .ok true ∧
      ((Directory.change ⟨"https://directory", 1⟩ "a1" (.upsertScope spec)).run Client.replica
        ⟨held, sampleIds, []⟩).1 = .failed (.decode "application 'a1'") :=
  ⟨rfl, rfl, rfl, rfl, rfl⟩

end Samples

end Provision
