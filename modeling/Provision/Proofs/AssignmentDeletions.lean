import Provision.Proofs.KnownTokens
import Provision.Proofs.Requests
import Provision.Proofs.ResourceCollections

/-!
# What is deleted as a role assignment

A role assignment is deleted by its full resource id, which ends in
`/roleAssignments/` and a name.  A text is taken for one as soon as it starts with
a slash and `/roleAssignments/` occurs somewhere in it.  Every id of a role
assignment passes, and its deletion takes away nothing but what the server keeps
under it.  But other texts pass as well: where the words stand in front of further
segments, or in a query that the server cuts off, what is deleted is no role
assignment.  The deletion is confined to role assignments exactly for the texts
that are not such a loose id.
-/

namespace Provision

open Replica (Location joinPath keptSegments)

/-- The resource id of the role assignment with a name under a scope, which is the whole text: it
has neither a query nor a fragment. -/
structure AssignmentId (scope name id : String) : Prop where
  absolute : "/".toList <+: id.toList
  composed : id = scope ++ "/roleAssignments/" ++ name
  given : name ≠ ""
  noSegments : '/' ∉ name.toList
  whole : ∀ mark ∈ ['?', '#'], mark ∉ scope.toList ∧ mark ∉ name.toList

/-- Whether a text is the full resource id of a role assignment. -/
def IsAssignmentId (id : String) : Prop := ∃ scope name, AssignmentId scope name id

/-- What is looked at before a deletion: a slash at the start, and the words somewhere. -/
def PassesAsAssignment (id : String) : Prop :=
  Text.startsWith "/" id = true ∧ Text.contains "/roleAssignments/" id = true

instance (id : String) : Decidable (PassesAsAssignment id) := inferInstanceAs (Decidable (_ ∧ _))

/-- A text that passes, but is not the id of a role assignment. -/
structure IsLooseId (id : String) : Prop where
  passes : PassesAsAssignment id
  notAssignment : ¬IsAssignmentId id

section Ids

variable {scope name id : String}

theorem AssignmentId.passes (assignment : AssignmentId scope name id) : PassesAsAssignment id := by
  refine ⟨Text.startsWith_iff.mpr assignment.absolute, ?_⟩
  rw [assignment.composed, Text.contains, String.toList_append, String.toList_append]
  exact Text.occursIn_append _ _ _

theorem AssignmentId.noQuery (assignment : AssignmentId scope name id) : '?' ∉ id.toList := by
  obtain ⟨inScope, inName⟩ := assignment.whole '?' (by decide)
  rw [assignment.composed]
  simp [inScope, inName]

theorem passes_of_isAssignmentId (isAssignment : IsAssignmentId id) : PassesAsAssignment id := by
  obtain ⟨scope, name, assignment⟩ := isAssignment
  exact assignment.passes

/-- A blank text does not pass. -/
theorem PassesAsAssignment.given (passes : PassesAsAssignment id) : id ≠ "" := by
  rintro rfl
  exact absurd passes.1 (by decide)

/-- Only the id of a role assignment passes if a text is not loose. -/
theorem passes_iff_of_not_loose (notLoose : ¬IsLooseId id) :
    PassesAsAssignment id ↔ IsAssignmentId id := by
  refine ⟨fun passes => ?_, passes_of_isAssignmentId⟩
  by_contra notAssignment
  exact notLoose ⟨passes, notAssignment⟩

end Ids

namespace Replica

variable {base text rest : String}

/-- A text as a path: its segments, without those that are left out of paths. -/
def pathOf (text : List Char) : String :=
  String.ofList (joinPath [] (keptSegments (Text.pieces '/' text)))

theorem pathOf_append_slash (before after : List Char) :
    pathOf (before ++ '/' :: after) = pathOf before ++ pathOf after := by
  rw [pathOf, Text.pieces_append, keptSegments_append, joinPath_append, String.ofList_append]
  rfl

/-- Slashes at the start of a text do not show in its path. -/
theorem pathOf_dropLeading (text : List Char) :
    pathOf (text.dropWhile (· = '/')) = pathOf text := by
  induction text with
  | nil => rfl
  | cons first text ih =>
      by_cases slash : first = '/'
      · have behind : pathOf ('/' :: text) = pathOf text := pathOf_append_slash [] text
        simp [slash, behind, ih]
      · simp [slash]

/-- What stands behind an origin, without a query, is kept under the origin. -/
theorem Location.path_ofUrl_origin (origin : IsOrigin base) (noQuery : '?' ∉ text.toList) :
    (ofUrl (base ++ "/" ++ text)).path = base ++ pathOf text.toList := by
  obtain ⟨scheme, host, rfl, parts, -⟩ := origin
  have noColon : ':' ∉ scheme := by
    intro scheme_mem
    exact absurd (parts.letters ':' scheme_mem) (by decide)
  have noSlash : '/' ∉ host := by
    intro host_mem
    exact absurd (parts.whole '/' host_mem) (by decide)
  have characters : (String.ofList (scheme ++ "://".toList ++ host) ++ "/" ++ text).toList =
      scheme ++ "://".toList ++ (host ++ '/' :: text.toList) := by
    simp
  have whole : '?' ∉ scheme ++ "://".toList ++ (host ++ '/' :: text.toList) := by
    simp only [List.mem_append, List.mem_cons, not_or]
    refine ⟨⟨?_, by decide⟩, ?_, by decide, noQuery⟩
    · intro scheme_mem
      exact absurd (parts.letters '?' scheme_mem) (by decide)
    · intro host_mem
      exact absurd (parts.whole '?' host_mem) (by decide)
  rw [ofUrl, characters, Text.takeWhile_of_not_mem whole,
    splitOrigin_append (Text.cut?_of_not_mem noColon) noSlash]
  simp [pathOf, joinPath, ← String.toList_inj]

end Replica

/-- Documents are kept or left out by their paths alone. -/
theorem Replica.Documents.find?_filter (keeps : String → Bool) (path : String)
    (documents : Replica.Documents) :
    find? path (documents.filter fun (other, _) => keeps other) =
      if keeps path then find? path documents else none := by
  induction documents with
  | nil => simp [find?, Members.find?]
  | cons first documents ih =>
      obtain ⟨other, document⟩ := first
      simp only [find?] at ih ⊢
      by_cases same : other = path <;> cases stays : keeps other <;>
        simp_all [Members.find?]

namespace ResourceManager

variable {manager : ResourceManager} {id scope name version : String}
  {query : List (String × String)}

/-- The path at which a replica keeps what a resource id names. -/
def storedPath (manager : ResourceManager) (id : String) : String :=
  (Location.ofUrl (manager.base ++ "/" ++ Text.dropLeading '/' id)).path

theorem path_ofUrl_url (manager : ResourceManager) (id version : String)
    (query : List (String × String)) :
    (Location.ofUrl (manager.url id version query)).path = manager.storedPath id := by
  rw [url, Location.ofUrl_append_query, storedPath]

/-- A role assignment is kept under its scope and its name.  A name that reads as one of a type
leaves no trace in the path. -/
theorem storedPath_of_assignmentId (origin : IsOrigin manager.base)
    (assignment : AssignmentId scope name id) (noCast : Replica.isCast name.toList = false) :
    manager.storedPath id =
      manager.base ++ Replica.pathOf scope.toList ++ "/roleAssignments/" ++ name := by
  have noQuery : '?' ∉ (Text.dropLeading '/' id).toList := by
    rw [Text.dropLeading, String.toList_ofList]
    exact fun query_mem => assignment.noQuery ((List.dropWhile_sublist _).subset query_mem)
  have given : name.toList ≠ [] := by simpa using assignment.given
  have named : Replica.pathOf name.toList = "/" ++ name := by
    simp [Replica.pathOf, Text.pieces_of_not_mem assignment.noSegments, keptSegments, given, noCast,
      joinPath]
  have words : Replica.pathOf "roleAssignments".toList = "/roleAssignments" := by decide
  have split : id.toList =
      scope.toList ++ '/' :: ("roleAssignments".toList ++ '/' :: name.toList) := by
    simp [assignment.composed]
  rw [storedPath, Location.path_ofUrl_origin origin noQuery, Text.dropLeading,
    String.toList_ofList, Replica.pathOf_dropLeading, split, Replica.pathOf_append_slash,
    Replica.pathOf_append_slash, named, words]
  simp [← String.toList_inj]

/-- The request that deletes what an id names, with the version of role assignments. -/
def deleteAssignment (manager : ResourceManager) (id : String) : Request :=
  ⟨.delete, manager.url id RoleAssignment.version [], none⟩

/-- The program that deletes what an id names, once the id has passed. -/
def deletion (manager : ResourceManager) (id : String) : Program OperationError Deleted := do
  (manager.delete id RoleAssignment.version).mapFailure (Deleted.failure "role assignment" id)
  return ⟨"role assignment", id⟩

/-- The failure for a text that does not pass. -/
def idRefusal (id : String) : PlanError :=
  if Text.trim id = "" then .missing "assignment_id"
  else .invalid "assignment_id"
    "expected a full resource id ending in /roleAssignments/\x7bname\x7d"

variable {State : Type} {client : Client State} {start finish : Run State}
  {now last : Run Replica} {schedule : Nat → Option RemoteError} {sent : List Exchange}
  {ending : Ending OperationError Deleted} {path : String}

/-- A text is refused unless it passes, and then the deletion is all that is left to run. -/
theorem of_deleteRoleAssignment
    (runs : (manager.deleteRoleAssignment id).Runs client start sent ending finish) :
    (¬PassesAsAssignment (Text.trim id) ∧ sent = [] ∧ ending = .failed (.plan (idRefusal id)) ∧
      finish = start) ∨
    PassesAsAssignment (Text.trim id) ∧ ∃ messages,
      (manager.deletion (Text.trim id)).Runs client { start with messages } sent ending finish := by
  rcases runs.of_check with ⟨error, refused, rfl, rfl, rfl⟩ | ⟨trimmed, accepted, checks⟩
  · have blank : Text.trim id = "" := by
      by_contra given
      simp [Argument.required_of_trim_ne given] at refused
    rw [Argument.required_of_trim_eq blank, Except.error.injEq] at refused
    rw [idRefusal, if_pos blank, refused]
    exact .inl ⟨fun passes => passes.given blank, rfl, rfl, rfl⟩
  obtain ⟨rfl, given⟩ := Argument.eq_trim_of_required accepted
  split at checks
  case isTrue passes => exact .inr ⟨passes, _, checks.of_progress⟩
  case isFalse fails =>
    obtain ⟨rfl, rfl, rfl⟩ := checks.unique Program.runs_fail
    rw [idRefusal, if_neg given]
    exact .inl ⟨fails, rfl, rfl, rfl⟩

/-- A text that passes has its deletion sent, and nothing else. -/
theorem sent_of_passes (passes : PassesAsAssignment (Text.trim id))
    (runs : (manager.deleteRoleAssignment id).Runs client start sent ending finish) :
    sent.map Exchange.request = [manager.deleteAssignment (Text.trim id)] := by
  rcases of_deleteRoleAssignment runs with ⟨fails, -⟩ | ⟨-, messages, deletes⟩
  · exact absurd passes fails
  obtain ⟨answer, state, rest, -, rfl, goesOn⟩ := Program.Runs.of_send deletes
  cases answer with
  | error cause =>
      obtain ⟨rfl, -⟩ := goesOn.unique Program.runs_fail
      rfl
  | ok document =>
      obtain ⟨rfl, -⟩ := goesOn.unique Program.runs_done
      rfl

/-- The deletion of what an id names takes away nothing but what is kept at its path and below. -/
theorem deleted_of_runs
    (runs : (manager.deletion id).Runs (Client.interrupted schedule) now sent ending last)
    (changed : last.state.documents.find? path ≠ now.state.documents.find? path) :
    last.state.documents.find? path = none ∧
      (path = manager.storedPath id ∨ Replica.isBelow (manager.storedPath id) path = true) := by
  have isDelete : (manager.deleteAssignment id).verb = .delete := rfl
  rcases Replica.deletion_of_runs isDelete runs with
    ⟨_, -, -, same, -⟩ | ⟨_, -, -, -, -, documents⟩
  · rw [same.documents] at changed
    exact absurd rfl changed
  · let keeps (other : String) : Bool :=
      other ≠ manager.storedPath id && !Replica.isBelow (manager.storedPath id) other
    have filtered : last.state.documents =
        now.state.documents.filter fun (other, _) => keeps other := by
      rw [documents, deleteAssignment, path_ofUrl_url]
    rw [filtered, Replica.Documents.find?_filter keeps] at changed ⊢
    by_cases kept : keeps path = true
    · simp [kept] at changed
    · refine ⟨if_neg kept, ?_⟩
      by_contra spared
      simp only [not_or, Bool.not_eq_true] at spared
      exact kept (by simp [keeps, spared])

/-- Only role assignments are deleted as role assignments: nothing else has a deletion sent, and any
other text is refused before a request.  Where a replica answers, what is gone afterwards was kept
at the path of the role assignment or below it, and under an origin this path is that of the scope
followed by the name. -/
structure DeletesAssignmentsOnly (manager : ResourceManager) (id : String) : Prop where
  sends {State : Type} {client : Client State} {start finish : Run State} {sent : List Exchange}
    {ending : Ending OperationError Deleted}
    (runs : (manager.deleteRoleAssignment id).Runs client start sent ending finish)
    (deletes : ∃ exchange ∈ sent, exchange.request.verb = .delete) : IsAssignmentId (Text.trim id)
  refused {State : Type} {client : Client State} {start : Run State}
    (notAssignment : ¬IsAssignmentId (Text.trim id)) :
    (manager.deleteRoleAssignment id).Runs client start [] (.failed (.plan (idRefusal id))) start
  asked {State : Type} {client : Client State} {start finish : Run State} {sent : List Exchange}
    {ending : Ending OperationError Deleted} (isAssignment : IsAssignmentId (Text.trim id))
    (runs : (manager.deleteRoleAssignment id).Runs client start sent ending finish) :
    sent.map Exchange.request = [manager.deleteAssignment (Text.trim id)]
  spares {schedule : Nat → Option RemoteError} {now last : Run Replica} {sent : List Exchange}
    {ending : Ending OperationError Deleted} {path : String}
    (runs : (manager.deleteRoleAssignment id).Runs (Client.interrupted schedule) now sent ending
      last)
    (changed : last.state.documents.find? path ≠ now.state.documents.find? path) :
    IsAssignmentId (Text.trim id) ∧ last.state.documents.find? path = none ∧
      (path = manager.storedPath (Text.trim id) ∨
        Replica.isBelow (manager.storedPath (Text.trim id)) path = true)
  places {scope name : String} (origin : IsOrigin manager.base)
    (assignment : AssignmentId scope name (Text.trim id))
    (noCast : Replica.isCast name.toList = false) :
    manager.storedPath (Text.trim id) =
      manager.base ++ Replica.pathOf scope.toList ++ "/roleAssignments/" ++ name

/-- The deletion of a role assignment is confined to role assignments exactly if the text it is
given is no loose id. -/
theorem deletesAssignmentsOnly_iff (manager : ResourceManager) (id : String) :
    manager.DeletesAssignmentsOnly id ↔ ¬IsLooseId (Text.trim id) := by
  constructor
  · intro confined loose
    -- whoever answers, a loose id has its deletion sent, and should have been refused
    let client : Client Unit := ⟨fun _ state => (.ok .null, state)⟩
    let start : Run Unit := ⟨(), ⟨fun _ => id, 0⟩, []⟩
    have refused : (manager.deleteRoleAssignment id).Runs client start [] _ start :=
      confined.refused loose.notAssignment
    have sent := sent_of_passes loose.passes refused
    simp at sent
  · intro notLoose
    have passes_iff := passes_iff_of_not_loose notLoose
    refine ⟨?sends, ?refused, ?asked, ?spares, fun origin assignment noCast =>
      storedPath_of_assignmentId origin assignment noCast⟩
    case sends =>
      rintro State client start finish sent ending runs ⟨exchange, exchange_mem, -⟩
      rcases of_deleteRoleAssignment runs with ⟨-, rfl, -⟩ | ⟨passes, -⟩
      · simp at exchange_mem
      · exact passes_iff.mp passes
    case refused =>
      intro State client start notAssignment
      have runs := Program.runs_run client (manager.deleteRoleAssignment id) start
      rcases of_deleteRoleAssignment runs with ⟨-, sent_eq, ending_eq, finish_eq⟩ | ⟨passes, -⟩
      · rwa [sent_eq, ending_eq, finish_eq] at runs
      · exact absurd (passes_iff.mp passes) notAssignment
    case asked =>
      intro State client start finish sent ending isAssignment runs
      exact sent_of_passes (passes_iff.mpr isAssignment) runs
    case spares =>
      intro schedule now last sent ending path runs changed
      rcases of_deleteRoleAssignment runs with ⟨-, -, -, rfl⟩ | ⟨passes, messages, deletes⟩
      · exact absurd rfl changed
      · exact ⟨passes_iff.mp passes, deleted_of_runs deletes changed⟩

/-- The id of the group of the samples with a query that names role assignments. -/
def groupQuery : String := sampleGroup.resourceGroupPath ++ "?x=/roleAssignments/"

/-- A replica that holds the group of the samples. -/
def heldGroup : Run Replica :=
  ⟨(Replica.empty ⟨fun _ => "fresh", 0⟩).withDocument
    (sampleGroup.base ++ sampleGroup.resourceGroupPath) (.object [("name", .string "rg-agents")]),
    ⟨fun _ => "fresh", 0⟩, []⟩

/-- Where the words stand in a query, the group itself is deleted. -/
theorem deleteRoleAssignment_deletes_group :
    ¬IsAssignmentId (Text.trim groupQuery) ∧
      (heldGroup.state.document? (sampleGroup.base ++ sampleGroup.resourceGroupPath)).isSome ∧
      ∃ sent last, (sampleGroup.deleteRoleAssignment groupQuery).Runs Client.replica heldGroup sent
          (.returned ⟨"role assignment", groupQuery⟩) last ∧ last.state.documents = [] := by
  have trimmed : Text.trim groupQuery = groupQuery := by decide +kernel
  have stored : (heldGroup.state.document? (sampleGroup.deleteAssignment groupQuery).url).isSome =
      true := by decide +kernel
  have calm : Replica.Calm (fun _ => none) heldGroup.state := ⟨fun _ => rfl, rfl⟩
  refine ⟨?_, by decide +kernel, ?_⟩
  · rintro ⟨scope, name, assignment⟩
    exact absurd assignment.noQuery (by decide +kernel)
  have runs := Program.runs_run (Client.interrupted fun _ => none)
    (sampleGroup.deleteRoleAssignment groupQuery) heldGroup
  rcases of_deleteRoleAssignment runs with ⟨fails, -⟩ | ⟨-, messages, deletes⟩
  · exact absurd (by decide +kernel) fails
  rw [trimmed] at deletes
  rcases Replica.deletion_of_runs rfl deletes with
    ⟨_, -, -, -, reason⟩ | ⟨_, -, ending, -, -, documents⟩
  · exact absurd (reason calm).1 (Option.isSome_iff_ne_none.mp stored)
  · change _ = List.filter _ heldGroup.state.documents at documents
    rw [ending] at runs
    exact ⟨_, _, runs, documents.trans (by decide +kernel)⟩

end ResourceManager

end Provision
