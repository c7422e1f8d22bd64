import Provision.Directory.Basic
import Provision.Proofs.Members
import Provision.Replica.Basic

/-!
# Answers of a replica

What a replica answers when an application that it holds is read or changed: the
request is refused, and no document changes, or it is served.  The query of a
URL plays no part in where it points, so what is read with a selection of
members is what is changed without one.

An `interrupted` client loses requests on the way to a replica as a schedule
says.  Together with the failures that a replica can be told to produce, which
are arbitrary in what follows, this covers every way in which requests can fail.
-/

namespace Provision

namespace Replica

namespace Documents

variable {path other : String} {document : Json} {documents : Documents}

theorem find?_store_self : (documents.store path document).find? path = some document := by
  induction documents with
  | nil => simp [store, find?, Members.find?]
  | cons stored rest ih =>
      rcases stored with ⟨first, kept⟩
      by_cases same : first = path
      · simp [store, find?, Members.find?, same]
      · simpa [store, find?, Members.find?, same] using ih

theorem find?_store_of_ne (different : other ≠ path) :
    (documents.store path document).find? other = documents.find? other := by
  induction documents with
  | nil => simp [store, find?, Members.find?, different.symm]
  | cons stored rest ih =>
      rcases stored with ⟨first, kept⟩
      by_cases same : first = path
      · simp [store, find?, Members.find?, same, different.symm]
      · by_cases wanted : first = other
        · subst wanted
          simp [store, find?, Members.find?, same]
        · simpa [store, find?, Members.find?, same, wanted] using ih

end Documents

theorem takeWhile_append_cons {Element : Type} {test : Element → Bool} {stop : Element}
    (before after : List Element) (stops : test stop = false) :
    (before ++ stop :: after).takeWhile test = before.takeWhile test := by
  induction before with
  | nil => simp [stops]
  | cons first rest ih => simp [List.takeWhile_cons, ih]

/-- The query of a URL plays no part in where it points. -/
theorem Location.ofUrl_append_query (url query : String) :
    Location.ofUrl (url ++ "?" ++ query) = Location.ofUrl url := by
  have cut : (url ++ "?" ++ query).toList.takeWhile (· ≠ '?') =
      url.toList.takeWhile (· ≠ '?') := by
    have characters : (url ++ "?" ++ query).toList = url.toList ++ '?' :: query.toList := by simp
    rw [characters]
    exact takeWhile_append_cons _ _ (by simp)
  simp only [Location.ofUrl, cut]

end Replica

namespace Directory

/-- The URL of an application. -/
def applicationUrl (directory : Directory) (objectId : String) : String :=
  directory.url ("applications/" ++ objectId)

/-- An application is read from where it is changed. -/
theorem ofUrl_selection (directory : Directory) (objectId selected : String) :
    Replica.Location.ofUrl
        (directory.url ("applications/" ++ objectId ++ "?$select=" ++ selected)) =
      Replica.Location.ofUrl (directory.applicationUrl objectId) := by
  have split : directory.url ("applications/" ++ objectId ++ "?$select=" ++ selected) =
      directory.applicationUrl objectId ++ "?" ++ ("$select=" ++ selected) := by
    simp [applicationUrl, url, Text.dropLeading, ← String.toList_inj]
  rw [split, Replica.Location.ofUrl_append_query]

end Directory

/-- The client of a replica that loses the requests at the places that a schedule names; a request
that is lost is kept, but changes nothing. -/
def Client.interrupted (schedule : Nat → Option RemoteError) : Client Replica where
  send request replica :=
    match schedule replica.requests.length with
    | some error => (.error error, { replica with requests := replica.requests ++ [request] })
    | none => replica.answer request

/-- Without interruptions the client is that of the replica. -/
theorem Client.interrupted_never : Client.interrupted (fun _ => none) = Client.replica := rfl

namespace Replica

variable {schedule : Nat → Option RemoteError} {replica : Replica} {url : String}
  {request : Request} {document : Json} {documents : Documents}

/-- No request is lost and no failure is due. -/
structure Calm (schedule : Nat → Option RemoteError) (replica : Replica) : Prop where
  noneLost : ∀ call, schedule call = none
  noneDue : replica.failures = []

/-- A request is answered with a document and leaves certain documents, or it is refused and
changes nothing. -/
inductive Served (schedule : Nat → Option RemoteError) (request : Request) (replica : Replica)
    (document : Json) (documents : Documents) : Prop where
  | answered (later : Replica)
      (sends : (Client.interrupted schedule).send request replica = (.ok document, later))
      (changed : later.documents = documents)
      (calm : Calm schedule replica → Calm schedule later)
  | refused (error : RemoteError) (later : Replica)
      (sends : (Client.interrupted schedule).send request replica = (.error error, later))
      (unchanged : later.documents = replica.documents)
      (disturbed : ¬Calm schedule replica)

/-- A request is served as the replica handles it whenever no failure is due. -/
theorem served_of_handle
    (handles : ∀ requests failures, ∃ later : Replica,
      handle { replica with requests, failures } request = .ok (document, later) ∧
        later.documents = documents ∧ later.failures = failures) :
    Served schedule request replica document documents := by
  cases lost : schedule replica.requests.length with
  | some error =>
      refine .refused error { replica with requests := replica.requests ++ [request] }
        (by simp [Client.interrupted, lost]) rfl ?_
      intro calm
      simp [calm.noneLost] at lost
  | none =>
      rcases taken : takeFailure request.verb request.url replica.failures with ⟨due, failures⟩
      rcases handles (replica.requests ++ [request]) failures with ⟨later, handled, changed, kept⟩
      cases due with
      | some failure =>
          refine .refused (.refused request.verb request.url failure.status failure.body)
            { replica with requests := replica.requests ++ [request], failures }
            (by simp [Client.interrupted, lost, answer, taken]) rfl ?_
          intro calm
          simp [calm.noneDue, takeFailure] at taken
      | none =>
          refine .answered later
            (by simp [Client.interrupted, lost, answer, taken, handled]) changed ?_
          intro calm
          have noneLeft : failures = [] := by
            simpa [calm.noneDue, takeFailure, eq_comm] using taken
          exact ⟨calm.noneLost, kept.trans noneLeft⟩

theorem served_get {body : Option Json} (stored : replica.document? url = some document) :
    Served schedule ⟨.get, url, body⟩ replica document replica.documents := by
  apply served_of_handle
  intro requests failures
  refine ⟨{ replica with requests, failures }, ?_, rfl, rfl⟩
  have found : replica.documents.find? (Location.ofUrl url).path = some document := stored
  simp [handle, read, found, pure, Except.pure, bind, Except.bind]

theorem served_patch {members changes : List (String × Json)}
    (stored : replica.document? url = some (.object members)) :
    Served schedule ⟨.patch, url, some (.object changes)⟩ replica .null
      (replica.documents.store (Location.ofUrl url).path
        (.object (Members.override members changes))) := by
  apply served_of_handle
  intro requests failures
  have found : replica.documents.find? (Location.ofUrl url).path = some (.object members) := stored
  let changed : Documents :=
    replica.documents.store (Location.ofUrl url).path (.object (Members.override members changes))
  refine ⟨{ replica with requests, failures, documents := changed }, ?_, rfl, rfl⟩
  simp [handle, bodyMembers, change, found, changed, pure, Except.pure, bind, Except.bind]

/-- The failure that is due for a request. -/
def due? (replica : Replica) (request : Request) : Option Failure :=
  (takeFailure request.verb request.url replica.failures).1

/-- A stored document is read, unless a failure is due. -/
theorem answer_stored (isGet : request.verb = .get)
    (stored : replica.document? request.url = some document) :
    ∃ later, replica.answer request = (match replica.due? request with
        | none => .ok document
        | some failure =>
          .error (.refused request.verb request.url failure.status failure.body), later) ∧
      later.documents = replica.documents ∧ (replica.failures = [] → later.failures = []) := by
  rcases taken : takeFailure request.verb request.url replica.failures with ⟨due, failures⟩
  let later : Replica :=
    { replica with requests := replica.requests ++ [request], failures }
  have quiet : replica.failures = [] → later.failures = [] := by
    intro noneQueued
    rw [noneQueued, takeFailure] at taken
    exact (Prod.mk.inj taken).2.symm
  refine ⟨later, ?_, rfl, quiet⟩
  cases due with
  | some failure => simp only [answer, taken, due?, later]
  | none =>
      have found : later.documents.find? (Location.ofUrl request.url).path = some document := stored
      have isRead : later.read (Location.ofUrl request.url) = .ok document := by
        simp only [read, found]
      have handled : later.handle request = .ok (document, later) := by
        simp only [handle, isGet, isRead, bind, Except.bind, pure, Except.pure]
      simp only [answer, taken, due?, later, handled]

/-- The documents of a list are read in one page unless there are none. -/
theorem read_list {location : Location} (absent : replica.documents.find? location.path = none) :
    replica.read location = .ok (.object [("value", .array (replica.children location))]) ∨
      (∃ refusal, replica.read location = .error refusal) ∧ replica.children location = [] := by
  by_cases refused : replica.children location = [] ∧
      location.path ∉ replica.collections ∧ replica.documents.has (parentOf location.path) = false
  · right
    refine ⟨⟨notFound location.path, ?_⟩, refused.1⟩
    simp [read, absent, refused]
  · left
    simpa [read, absent] using refused

/-- A request is refused and changes no document, or it is handled. -/
theorem answer_cases (request : Request) (replica : Replica) :
    (∃ error, (replica.answer request).1 = .error error ∧
      (replica.answer request).2.documents = replica.documents) ∨
    ∃ requests failures answer later,
      handle { replica with requests, failures } request = .ok (answer, later) ∧
        replica.answer request = (.ok answer, later) := by
  rcases taken : takeFailure request.verb request.url replica.failures with ⟨due, failures⟩
  cases due with
  | some failure =>
      left
      exact ⟨.refused request.verb request.url failure.status failure.body,
        by simp only [answer, taken], by simp only [answer, taken]⟩
  | none =>
      cases handled : handle { replica with
          requests := replica.requests ++ [request], failures } request with
      | error refusal =>
          left
          exact ⟨.refused request.verb request.url refusal.1 refusal.2.compact,
            by simp only [answer, taken, handled], by simp only [answer, taken, handled]⟩
      | ok answered =>
          right
          exact ⟨_, failures, answered.1, answered.2, handled,
            by simp only [answer, taken, handled]⟩

/-- Reading changes no document, and brings the one that is stored. -/
theorem answer_get (document : Json) (isGet : request.verb = .get) :
    (replica.answer request).2.documents = replica.documents ∧
      ∀ answer, (replica.answer request).1 = .ok answer →
        replica.document? request.url = some document → answer = document := by
  rcases answer_cases request replica with
    ⟨error, refused, unchanged⟩ | ⟨requests, failures, answer, later, handled, answered⟩
  · refine ⟨unchanged, ?_⟩
    intro answer answers
    simp [refused] at answers
  · simp only [handle, isGet] at handled
    cases found : read { replica with requests, failures } (Location.ofUrl request.url) with
    | error refusal => simp [found, bind, Except.bind] at handled
    | ok document =>
        obtain ⟨rfl, rfl⟩ : document = answer ∧ _ = later := by
          simpa [found, bind, Except.bind, pure, Except.pure] using handled
        rw [answered]
        refine ⟨rfl, ?_⟩
        rintro _ ⟨⟩ stored
        have isStored : replica.documents.find? (Location.ofUrl request.url).path = some _ := stored
        simpa [read, isStored, eq_comm] using found

/-- A change leaves the documents as they are or sets its members in the one that is stored. -/
theorem answer_patch {changes : List (String × Json)} (isPatch : request.verb = .patch)
    (body : request.body = some (.object changes)) :
    (replica.answer request).2.documents = replica.documents ∨
      ∃ members, replica.document? request.url = some (.object members) ∧
        (replica.answer request).2.documents =
          replica.documents.store (Location.ofUrl request.url).path
            (.object (Members.override members changes)) := by
  rcases answer_cases request replica with
    ⟨error, refused, unchanged⟩ | ⟨requests, failures, answer, later, handled, answered⟩
  · exact Or.inl unchanged
  · right
    simp only [handle, isPatch, body, bodyMembers] at handled
    cases found : replica.documents.find? (Location.ofUrl request.url).path with
    | none => simp [change, found, bind, Except.bind] at handled
    | some document =>
        cases document with
        | object members =>
            refine ⟨members, found, ?_⟩
            rw [answered]
            obtain ⟨-, rfl⟩ : Json.null = answer ∧ _ = later := by
              simpa [change, found, bind, Except.bind, pure, Except.pure] using handled
            rfl
        | _ => simp [change, found, bind, Except.bind] at handled

end Replica

end Provision
