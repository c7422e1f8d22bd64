import Provision.Directory.AgentIdentity
import Provision.Proofs.AssignmentDeletions
import Provision.Proofs.VerbEffects

/-!
# What is deleted from the directory

Blueprints and agent identities are deleted by their object ids.  The id is written into the URL of
the request as it is, and the server reads the URL again: it cuts off what follows a question mark,
divides the rest at slashes, and leaves out segments that are empty or name a type.  So an id that
is no segment of a path of its own is read as something else, and another document is deleted with
all that stands below it.  For an id that is a segment the deletion is confined to the object with
this id.
-/

namespace Provision

open Replica (Documents Location IsSegment isChild lastSegment)

namespace Replica

variable {collection id path other : String} {documents : Documents}

/-- A path is that of the object with an id: it lies directly below the collection, and its last
segment is the id. -/
structure IsObjectAt (collection id path : String) : Prop where
  child : isChild collection path = true
  named : lastSegment path = id

theorem isChild_iff : isChild collection path = true ↔
    ∃ segment, path = collection ++ "/" ++ segment ∧ segment ≠ "" ∧ '/' ∉ segment.toList := by
  simp only [Documents.isChild_eq, Option.any_eq_true, Bool.and_eq_true, decide_eq_true_iff,
    Bool.not_eq_true', List.contains_eq_mem, decide_eq_false_iff_not]
  constructor
  · rintro ⟨segment, found, isSegment⟩
    exact ⟨segment, Documents.eq_append_of_stripStart? found, isSegment⟩
  · rintro ⟨segment, rfl, isSegment⟩
    exact ⟨segment, Documents.stripStart?_append, isSegment⟩

theorem isObjectAt_iff (given : id ≠ "") : IsObjectAt collection id path ↔
    path = collection ++ "/" ++ id ∧ '/' ∉ id.toList := by
  constructor
  · rintro ⟨child, rfl⟩
    obtain ⟨segment, rfl, -, noSlash⟩ := isChild_iff.mp child
    rw [lastSegment_append noSlash]
    exact ⟨rfl, noSlash⟩
  · rintro ⟨rfl, noSlash⟩
    exact ⟨isChild_iff.mpr ⟨id, rfl, given, noSlash⟩, lastSegment_append noSlash⟩

/-- What a deletion takes away shows which stored document it deleted. -/
theorem Documents.withoutTree_inj (stored : (documents.find? path).isSome)
    (otherStored : (documents.find? other).isSome)
    (same : documents.withoutTree path = documents.withoutTree other) : path = other := by
  have gone {gone kept : String} (stored : (documents.find? gone).isSome)
      (same : documents.withoutTree gone = documents.withoutTree kept) :
      gone = kept ∨ (kept ++ "/").toList <+: gone.toList := by
    obtain ⟨document, found⟩ := Option.isSome_iff_exists.mp stored
    have listed : (gone, document) ∈ documents := Members.mem_of_find? found
    by_contra spared
    rw [not_or] at spared
    have remains : (gone, document) ∈ documents.withoutTree kept := by
      simpa [Documents.withoutTree, listed] using spared
    rw [← same] at remains
    simp [Documents.withoutTree] at remains
  rcases gone stored same with rfl | below
  · rfl
  rcases gone otherStored same.symm with rfl | above
  · rfl
  have longer := below.length_le
  have shorter := above.length_le
  simp at longer shorter
  omega

variable {url : String} {stem : List Char} {last : Char}

theorem pathOf_of_not_mem {text : List Char} (noSlash : '/' ∉ text) :
    pathOf text = if text = [] ∨ isCast text = true then "" else "/" ++ String.ofList text := by
  rw [pathOf, Text.pieces_of_not_mem noSlash]
  by_cases leftOut : text = [] ∨ isCast text = true
  · have nothing : keptSegments [text] = [] := by
      simpa [keptSegments, or_iff_not_imp_left] using leftOut
    simp [nothing, leftOut, joinPath]
  · have whole : keptSegments [text] = [text] := by
      rw [not_or] at leftOut
      simp [keptSegments, leftOut]
    simp [whole, leftOut, joinPath]

/-- Where a URL points is told by what stands in front of its query. -/
theorem Location.ofUrl_takeWhile (text : List Char) :
    ofUrl (String.ofList (text.takeWhile (· ≠ '?'))) = ofUrl (String.ofList text) := by
  simp [ofUrl, List.takeWhile_takeWhile]

/-- An id without a slash adds to the path what stands in front of its query. -/
theorem Location.path_ofUrl_id (url_eq : url = String.ofList (stem ++ [last]))
    (lastApart : last ∉ "://".toList) (noQuery : '?' ∉ stem ++ [last]) (noSlash : '/' ∉ id.toList) :
    (ofUrl (url ++ "/" ++ id)).path =
      (ofUrl url).path ++ pathOf (id.toList.takeWhile (· ≠ '?')) := by
  have before : ∀ char ∈ stem ++ [last] ++ ['/'], decide (char ≠ '?') = true := by
    intro char char_mem
    rw [List.mem_append, List.mem_singleton] at char_mem
    rcases char_mem with inUrl | rfl
    · simpa using ne_of_mem_of_not_mem inUrl noQuery
    · decide
  have spelled : url ++ "/" ++ id = String.ofList (stem ++ [last] ++ ['/'] ++ id.toList) := by
    simp [url_eq, ← String.toList_inj]
  have whole : '?' ∉ id.toList.takeWhile (· ≠ '?') := Text.not_mem_takeWhile_ne _
  have noOrigin : Text.cut? "://".toList ('/' :: id.toList.takeWhile (· ≠ '?')) = none := by
    apply Option.map_eq_none_iff.mpr
    exact Text.cut?_eq_none (by decide : '/' ∈ "://".toList) (Text.not_mem_takeWhile noSlash)
  have adds := path_ofUrl_append lastApart noQuery whole noOrigin
  rw [spelled, ← ofUrl_takeWhile, List.takeWhile_append_of_pos before]
  simp only [List.append_assoc, List.singleton_append, url_eq]
  exact adds

/-- What stands in front of the query of an id makes up the whole id only if it is a segment. -/
theorem pathOf_takeWhile_eq_iff (noSlash : '/' ∉ id.toList) :
    pathOf (id.toList.takeWhile (· ≠ '?')) = "/" ++ id ↔ IsSegment id := by
  have noSlashLeft : '/' ∉ id.toList.takeWhile (· ≠ '?') := Text.not_mem_takeWhile noSlash
  rw [pathOf_of_not_mem noSlashLeft]
  constructor
  · intro path_eq
    split at path_eq
    case isTrue => simp [← String.toList_inj] at path_eq
    case isFalse kept =>
      have whole : id.toList.takeWhile (· ≠ '?') = id.toList := by
        simpa [← String.toList_inj] using path_eq
      rw [whole, not_or] at kept
      refine ⟨by simpa using kept.1, noSlash, ?_, by simpa using kept.2⟩
      intro inId
      rw [List.takeWhile_eq_self_iff] at whole
      simpa using whole '?' inId
  · intro segment
    have given : id.toList ≠ [] := by simpa using segment.given
    rw [Text.takeWhile_of_not_mem segment.noQuery]
    simp [given, segment.noCast]

/-- An id behind the URL of a collection is read as itself exactly if it is a segment and the URL
has no query. -/
theorem isObjectAt_ofUrl_iff (url_eq : url = String.ofList (stem ++ [last]))
    (lastApart : last ∉ "://".toList) (given : id ≠ "") :
    IsObjectAt (Location.ofUrl url).path id (Location.ofUrl (url ++ "/" ++ id)).path ↔
      '?' ∉ url.toList ∧ IsSegment id := by
  rw [isObjectAt_iff given]
  constructor
  · rintro ⟨path_eq, noSlash⟩
    by_cases query : '?' ∈ stem ++ [last]
    · have longer : (Location.ofUrl url).path ≠ (Location.ofUrl url).path ++ "/" ++ id := by
        intro same
        simpa using congrArg String.toList same
      have spelled : url ++ "/" ++ id = String.ofList (stem ++ [last] ++ '/' :: id.toList) := by
        simp [url_eq, ← String.toList_inj]
      rw [spelled, Location.ofUrl_append_of_query query, ← url_eq] at path_eq
      exact absurd path_eq longer
    · rw [Location.path_ofUrl_id url_eq lastApart query noSlash, String.append_assoc,
        String.append_right_inj] at path_eq
      exact ⟨by simpa [url_eq] using query, (pathOf_takeWhile_eq_iff noSlash).mp path_eq⟩
  · rintro ⟨noQuery, segment⟩
    have whole : '?' ∉ stem ++ [last] := by simpa [url_eq] using noQuery
    exact ⟨Location.path_ofUrl_segment segment lastApart whole url_eq, segment.noSlash⟩

end Replica

/-- The kinds of objects that are deleted from the directory by their ids. -/
inductive Deletable where
  | blueprint
  | agentIdentity
deriving DecidableEq, Repr

namespace Deletable

/-- What objects of a kind are called. -/
def resource : Deletable → String
  | blueprint => "blueprint"
  | agentIdentity => "agent identity"

/-- The collection that the objects of a kind stand in. -/
def collection : Deletable → String
  | blueprint => "applications"
  | agentIdentity => "servicePrincipals"

end Deletable

namespace Directory

open Replica (IsObjectAt isObjectAt_iff isObjectAt_ofUrl_iff Serves)

variable {directory : Directory} {kind : Deletable} {objectId : String}

/-- The program that deletes the object with an id. -/
def deletion (directory : Directory) : Deletable → String → Program OperationError Deleted
  | .blueprint => directory.deleteBlueprint
  | .agentIdentity => directory.deleteAgentIdentity

/-- The path that the objects of a kind stand below. -/
def collectionPath (directory : Directory) (kind : Deletable) : String :=
  (Location.ofUrl (directory.url kind.collection)).path

/-- The request that deletes the object with an id. -/
def deleteRequest (directory : Directory) (kind : Deletable) (id : String) : Request :=
  ⟨.delete, directory.url (kind.collection ++ "/" ++ id), none⟩

/-- How a deletion ends whose request got an answer. -/
def deletionEnding (kind : Deletable) (id : String) :
    Except RemoteError Json → Ending OperationError Deleted
  | .ok _ => .returned ⟨kind.resource, id⟩
  | .error cause => .failed (Deleted.failure kind.resource id cause)

theorem of_runs_deletion {State : Type} {client : Client State} {now later : Run State}
    {sent : List Exchange} {ending : Ending OperationError Deleted}
    (given : Text.trim objectId ≠ "")
    (runs : (directory.deletion kind objectId).Runs client now sent ending later) :
    ∃ answer, client.send (directory.deleteRequest kind (Text.trim objectId)) now.state =
      (answer, later.state) ∧ ending = deletionEnding kind (Text.trim objectId) answer := by
  have accepted : Argument.required "object_id" objectId = .ok (Text.trim objectId) :=
    Argument.required_of_trim_ne given
  cases kind with
  | blueprint | agentIdentity =>
    have deletes := (runs.of_check_ok accepted).of_progress
    obtain ⟨answer, state, rest, answers, -, goesOn⟩ := Program.Runs.of_send deletes
    cases answer with
    | error cause =>
      obtain ⟨-, rfl, rfl⟩ := goesOn.unique Program.runs_fail
      exact ⟨.error cause, answers, rfl⟩
    | ok document =>
      obtain ⟨-, rfl, rfl⟩ := goesOn.unique Program.runs_done
      exact ⟨.ok document, answers, rfl⟩

theorem dropLeading_collection (kind : Deletable) (added : String) :
    Text.dropLeading '/' (kind.collection ++ added) = kind.collection ++ added := by
  cases kind <;> simp [Text.dropLeading, Deletable.collection, ← String.toList_inj]

theorem url_collection (directory : Directory) (kind : Deletable) :
    directory.url kind.collection = directory.base ++ "/" ++ kind.collection := by
  have whole := dropLeading_collection kind ""
  rw [String.append_empty] at whole
  rw [url, whole]

theorem url_deleteRequest (directory : Directory) (kind : Deletable) (id : String) :
    (directory.deleteRequest kind id).url = directory.url kind.collection ++ "/" ++ id := by
  have whole := dropLeading_collection kind ("/" ++ id)
  rw [← String.append_assoc] at whole
  simp only [url_collection, deleteRequest]
  rw [url, whole]
  simp only [String.append_assoc]

/-- The URL of a collection ends like its name, and it has a query only if the base URL has one. -/
theorem exists_url_collection (directory : Directory) (kind : Deletable) :
    ∃ stem, directory.url kind.collection = String.ofList (stem ++ ['s']) ∧
      ('?' ∉ (directory.url kind.collection).toList ↔ '?' ∉ directory.base.toList) := by
  rw [url_collection]
  cases kind with
  | blueprint =>
    refine ⟨directory.base.toList ++ "/application".toList, ?_, ?_⟩
    · simp [Deletable.collection, ← String.toList_inj]
    · simp [Deletable.collection]
  | agentIdentity =>
    refine ⟨directory.base.toList ++ "/servicePrincipal".toList, ?_, ?_⟩
    · simp [Deletable.collection, ← String.toList_inj]
    · simp [Deletable.collection]

/-- What a deletion comes to that is confined to the object with the id: it fails and leaves all
documents, or the object is gone with what stood below it. -/
inductive ConfinedOutcome (directory : Directory) (kind : Deletable) (id : String)
    (earlier : Documents) : Ending OperationError Deleted → Documents → Prop
  | failed {error : OperationError} :
      ConfinedOutcome directory kind id earlier (.failed error) earlier
  | deleted {path : String} (object : IsObjectAt (directory.collectionPath kind) id path)
      (stored : (earlier.find? path).isSome) :
      ConfinedOutcome directory kind id earlier (.returned ⟨kind.resource, id⟩)
        (earlier.withoutTree path)

/-- A deletion is confined to the object with the id that it is given, and finds the object if it is
there. -/
structure DeletesObjectOnly (directory : Directory) (kind : Deletable) (objectId : String)
    (now : Run Replica) : Prop where
  confined {sent : List Exchange} {ending : Ending OperationError Deleted} {later : Run Replica}
    (runs : (directory.deletion kind objectId).Runs Client.replica now sent ending later) :
    ConfinedOutcome directory kind (Text.trim objectId) now.state.documents ending
      later.state.documents
  finds {sent : List Exchange} {ending : Ending OperationError Deleted} {later : Run Replica}
    {path : String}
    (calm : now.state.due? (directory.deleteRequest kind (Text.trim objectId)) = none)
    (object : IsObjectAt (directory.collectionPath kind) (Text.trim objectId) path)
    (stored : (now.state.documents.find? path).isSome)
    (runs : (directory.deletion kind objectId).Runs Client.replica now sent ending later) :
    ending = .returned ⟨kind.resource, Text.trim objectId⟩

theorem isObjectAt_deleteRequest_iff (directory : Directory) (kind : Deletable) {id : String}
    (given : id ≠ "") :
    IsObjectAt (directory.collectionPath kind) id
        (Location.ofUrl (directory.deleteRequest kind id).url).path ↔
      '?' ∉ directory.base.toList ∧ IsSegment id := by
  obtain ⟨stem, url_eq, noQuery_iff⟩ := directory.exists_url_collection kind
  rw [url_deleteRequest, collectionPath, isObjectAt_ofUrl_iff url_eq (by decide) given, noQuery_iff]

/-- What a run of a deletion leaves: the request failed and all documents are as they were, or the
document at the path of the request is gone with all below it. -/
inductive DeletionRun (directory : Directory) (kind : Deletable) (id : String) (now : Replica) :
    Ending OperationError Deleted → Documents → Prop
  | failed {error : OperationError}
      (reason : ¬(now.due? (directory.deleteRequest kind id) = none ∧
        now.Serves (directory.deleteRequest kind id))) :
      DeletionRun directory kind id now (.failed error) now.documents
  | deleted (calm : now.due? (directory.deleteRequest kind id) = none)
      (serves : now.Serves (directory.deleteRequest kind id)) :
      DeletionRun directory kind id now (.returned ⟨kind.resource, id⟩)
        (now.documents.withoutTree (Location.ofUrl (directory.deleteRequest kind id).url).path)

theorem deletionRun_of_runs {now later : Run Replica} {sent : List Exchange}
    {ending : Ending OperationError Deleted} (given : Text.trim objectId ≠ "")
    (runs : (directory.deletion kind objectId).Runs Client.replica now sent ending later) :
    DeletionRun directory kind (Text.trim objectId) now.state ending later.state.documents := by
  obtain ⟨answer, answers, rfl⟩ := of_runs_deletion given runs
  change now.state.answer _ = _ at answers
  have served := Replica.exists_answer_iff now.state
    (directory.deleteRequest kind (Text.trim objectId))
  rcases Replica.answer_cases (directory.deleteRequest kind (Text.trim objectId)) now.state with
    ⟨cause, refused, same⟩ | ⟨requests, failures, document, state, handles, answered⟩
  · rw [answers] at refused same served
    subst refused
    rw [same]
    apply DeletionRun.failed
    rw [← served]
    simp
  · obtain ⟨rfl, rfl⟩ := Prod.mk.inj (answers.symm.trans answered)
    rw [answers] at served
    obtain ⟨calm, serves⟩ := served.mp ⟨document, rfl⟩
    have effect := (Replica.effect_of_handle handles).1
    generalize later.state.documents = documents at effect ⊢
    cases effect with
    | deleted => exact .deleted calm serves
    | read isVerb | added isVerb | changed isVerb | put isVerb => cases isVerb

theorem DeletionRun.returned_iff {now : Replica} {id : String}
    {ending : Ending OperationError Deleted} {later : Documents}
    (comesTo : DeletionRun directory kind id now ending later) :
    ending = .returned ⟨kind.resource, id⟩ ↔
      now.due? (directory.deleteRequest kind id) = none ∧
        now.Serves (directory.deleteRequest kind id) := by
  cases comesTo with
  | failed reason => simp [reason]
  | deleted calm serves => simp [calm, serves]

theorem DeletionRun.confined_iff {now : Replica} {id : String} (given : id ≠ "")
    {ending : Ending OperationError Deleted} {later : Documents}
    (comesTo : DeletionRun directory kind id now ending later) :
    ConfinedOutcome directory kind id now.documents ending later ↔
      ('?' ∉ directory.base.toList ∧ IsSegment id) ∨
        ¬(now.due? (directory.deleteRequest kind id) = none ∧
          now.Serves (directory.deleteRequest kind id)) := by
  rw [← isObjectAt_deleteRequest_iff directory kind given]
  cases comesTo with
  | failed reason => exact iff_of_true .failed (.inr reason)
  | deleted calm serves =>
    constructor
    · intro confined
      generalize gone : now.documents.withoutTree _ = later at confined
      cases confined with
      | deleted object stored =>
        obtain rfl := Documents.withoutTree_inj serves stored gone
        exact .inl object
    · rintro (object | spared)
      · exact .deleted object serves
      · exact absurd ⟨calm, serves⟩ spared

/-- A deletion from the directory is confined to the object with its id, and finds the object,
exactly if the id is a segment of a path and the base URL has no query.  Otherwise this holds only
as long as the request fails: since a failure is due for it, or since nothing is at the path that
the server reads, and the object is not there. -/
theorem deletion_confined_iff (directory : Directory) (kind : Deletable) (objectId : String)
    (now : Run Replica) (given : Text.trim objectId ≠ "") :
    let request := directory.deleteRequest kind (Text.trim objectId)
    directory.DeletesObjectOnly kind objectId now ↔
      ('?' ∉ directory.base.toList ∧ IsSegment (Text.trim objectId)) ∨
        now.state.due? request ≠ none ∨
        ¬now.state.Serves request ∧ ∀ path,
          IsObjectAt (directory.collectionPath kind) (Text.trim objectId) path →
            now.state.documents.find? path = none := by
  intro request
  constructor
  · intro only
    have runs := Program.runs_run Client.replica (directory.deletion kind objectId) now
    have comesTo := deletionRun_of_runs given runs
    rcases (comesTo.confined_iff given).mp (only.confined runs) with segment | fails
    · exact .inl segment
    by_cases calm : now.state.due? request = none
    · refine .inr (.inr ⟨fun serves => fails ⟨calm, serves⟩, ?_⟩)
      intro path object
      by_contra there
      have stored := Option.isSome_iff_ne_none.mpr there
      exact fails (comesTo.returned_iff.mp (only.finds calm object stored runs))
    · exact .inr (.inl calm)
  · intro reasons
    refine ⟨?confined, ?finds⟩
    case confined =>
      intro sent ending later runs
      apply ((deletionRun_of_runs given runs).confined_iff given).mpr
      rcases reasons with segment | due | ⟨unserved, -⟩
      · exact .inl segment
      · exact .inr fun both => due both.1
      · exact .inr fun both => unserved both.2
    case finds =>
      intro sent ending later path calm object stored runs
      apply (deletionRun_of_runs given runs).returned_iff.mpr
      refine ⟨calm, ?_⟩
      rcases reasons with segment | due | ⟨-, nowhere⟩
      · have readAs := (isObjectAt_deleteRequest_iff directory kind given).mpr segment
        obtain ⟨read_eq, -⟩ := (isObjectAt_iff given).mp readAs
        obtain ⟨path_eq, -⟩ := (isObjectAt_iff given).mp object
        change (now.state.documents.find? _).isSome
        rwa [read_eq, ← path_eq]
      · exact absurd calm due
      · rw [nowhere path object] at stored
        contradiction

/-- A replica with a blueprint that holds a credential. -/
def heldBlueprint : Run Replica :=
  ⟨((Replica.empty ⟨fun _ => "fresh", 0⟩).withDocument "mock://graph/beta/applications/app-1"
      (.object [("id", .string "app-1")])).withDocument
      "mock://graph/beta/applications/app-1/federatedIdentityCredentials/f1"
      (.object [("id", .string "f1")]), ⟨fun _ => "fresh", 0⟩, []⟩

theorem deletion_confined_sample :
    Text.trim " app-1 " ≠ "" ∧
      sampleGraph.DeletesObjectOnly .blueprint " app-1 " heldBlueprint := by
  have given : Text.trim " app-1 " ≠ "" := by decide +kernel
  have trimmed : Text.trim " app-1 " = "app-1" := by decide +kernel
  have segment : IsSegment "app-1" := ⟨by decide, by decide, by decide, by decide⟩
  refine ⟨given, ?_⟩
  apply (deletion_confined_iff sampleGraph .blueprint " app-1 " heldBlueprint given).mpr
  rw [trimmed]
  exact .inl ⟨by decide, segment⟩

/-- There is no blueprint with this id, but what stands in front of the question mark is the id of
another one, which is deleted with its credential. -/
theorem deletion_of_other_blueprint :
    Text.trim "app-1?x" ≠ "" ∧
      (∀ path, IsObjectAt (sampleGraph.collectionPath .blueprint) (Text.trim "app-1?x") path →
        heldBlueprint.state.documents.find? path = none) ∧
      heldBlueprint.state.documents.length = 2 ∧
      ∃ sent later, (sampleGraph.deleteBlueprint "app-1?x").Runs Client.replica heldBlueprint sent
        (.returned ⟨"blueprint", "app-1?x"⟩) later ∧ later.state.documents = [] := by
  have given : Text.trim "app-1?x" ≠ "" := by decide +kernel
  refine ⟨given, ?_, by decide +kernel, ?_⟩
  · intro path object
    obtain ⟨rfl, -⟩ := (isObjectAt_iff given).mp object
    decide +kernel
  have ends : ((sampleGraph.deleteBlueprint "app-1?x").run Client.replica heldBlueprint).1 =
        .returned ⟨"blueprint", "app-1?x"⟩ ∧
      ((sampleGraph.deleteBlueprint "app-1?x").run Client.replica
        heldBlueprint).2.state.documents = [] := by
    decide +kernel
  exact ⟨_, _, Program.runs_of_ending ends.1, ends.2⟩

end Directory

end Provision
