import Provision.Proofs.Listings
import Provision.Proofs.NarrowedLists
import Provision.Proofs.ResourceLocations

/-!
# Collections of resources

The resources of a collection stand directly below the path of the collection, each under its own
name.  Seen from there, a replica is a list of documents by name: putting a resource stores its
document under the name, deleting one takes it out, and the list of the collection is made of all
that there are.  A declared collection can be listed even when it is empty.
-/

namespace Provision

namespace Text

variable {start more text rest : List Char}

theorem dropStart?_append_left :
    dropStart? (start ++ more) text = (dropStart? start text).bind (dropStart? more) := by
  induction start generalizing text with
  | nil => rfl
  | cons wanted start ih =>
      cases text with
      | nil => rfl
      | cons first text =>
          by_cases same : wanted = first
          · simpa [dropStart?, same] using ih
          · simp [dropStart?, same]

end Text

/-- A list of documents that can each be read is read element by element. -/
theorem Json.readAll?_map {Stored Element : Type} {element? : Json → Option Element}
    {document : Stored → Json} {element : Stored → Element} (stored : List Stored)
    (decoded : ∀ one, element? (document one) = some (element one)) :
    readAll? element? (stored.map document) = some (stored.map element) := by
  induction stored with
  | nil => rfl
  | cons one rest ih => simp [readAll?, decoded, ih]

namespace Replica

namespace Documents

/-- The documents below a path, each at what its own path has beyond it. -/
def below (path : String) (documents : Documents) : Documents :=
  documents.filterMap fun (other, document) =>
    (Text.stripStart? (path ++ "/") other).map fun name => (name, document)

variable {path name other : String} {document : Json} {documents : Documents}

theorem stripStart?_append : Text.stripStart? (path ++ "/") (path ++ "/" ++ name) = some name := by
  simp only [Text.stripStart?, String.toList_append]
  rw [Text.dropStart?_self_append, Option.map_some, String.ofList_toList]

theorem eq_append_of_stripStart? (found : Text.stripStart? (path ++ "/") other = some name) :
    other = path ++ "/" ++ name := by
  obtain ⟨rest, dropped, rfl⟩ := Option.map_eq_some_iff.mp found
  have characters := Text.eq_append_of_dropStart? dropped
  simp [← String.toList_inj, characters]

theorem below_cons (stored : String × Json) :
    below path (stored :: documents) =
      ((Text.stripStart? (path ++ "/") stored.1).map fun name => (name, stored.2)).toList ++
        below path documents := by
  cases found : Text.stripStart? (path ++ "/") stored.1 <;> simp [below, found]

theorem below_store : below path (documents.store (path ++ "/" ++ name) document) =
    (below path documents).store name document := by
  induction documents with
  | nil => simp [store, below, stripStart?_append]
  | cons stored rest ih =>
      rcases stored with ⟨other, kept⟩
      by_cases same : other = path ++ "/" ++ name
      · subst same
        simp [store, below_cons, stripStart?_append]
      · rw [store, if_neg same, below_cons, below_cons, ih]
        cases found : Text.stripStart? (path ++ "/") other with
        | none => rfl
        | some rest =>
            have different : rest ≠ name := by
              rintro rfl
              exact same (eq_append_of_stripStart? found)
            simp [store, different]

theorem find?_below :
    (below path documents).find? name = documents.find? (path ++ "/" ++ name) := by
  induction documents with
  | nil => rfl
  | cons stored rest ih =>
      rcases stored with ⟨other, kept⟩
      simp only [find?, below_cons] at ih ⊢
      cases found : Text.stripStart? (path ++ "/") other with
      | none =>
          have different : other ≠ path ++ "/" ++ name := by
            rintro rfl
            simp [stripStart?_append] at found
          simp [Members.find?, different, ih]
      | some inner =>
          obtain rfl := eq_append_of_stripStart? found
          by_cases same : inner = name
          · simp [Members.find?, same]
          · have different : path ++ "/" ++ inner ≠ path ++ "/" ++ name := by
              simpa [← String.toList_inj] using same
            simp [Members.find?, same, different, ih]

/-- What stands below a path is deleted under its own name. -/
theorem below_delete :
    below path (documents.filter fun (other, _) => other ≠ path ++ "/" ++ name) =
      (below path documents).filter fun (other, _) => other ≠ name := by
  simp only [below, List.filterMap_filter, List.filter_filterMap]
  apply List.filterMap_congr
  rintro ⟨other, document⟩ -
  cases found : Text.stripStart? (path ++ "/") other with
  | none => simp
  | some inner =>
      obtain rfl := eq_append_of_stripStart? found
      have same : path ++ "/" ++ inner = path ++ "/" ++ name ↔ inner = name := by
        simp [← String.toList_inj]
      simp only [ne_eq, same, Option.map_some, Option.filter_some]

theorem isChild_eq : isChild path other = (Text.stripStart? (path ++ "/") other).any fun name =>
    name ≠ "" && !name.toList.contains '/' := by
  have slash : "/".toList = ['/'] := rfl
  rw [isChild, Text.stripStart?, String.toList_append, Text.dropStart?_append_left, slash]
  cases (Text.dropStart? path.toList other.toList).bind (Text.dropStart? ['/']) with
  | none => rfl
  | some rest =>
      have given : decide (String.ofList rest ≠ "") = !rest.isEmpty := by
        cases rest <;> simp [← String.toList_inj]
      simp only [Option.map_some, Option.any_some, given, String.toList_ofList]

/-- The list of a path is made of what stands directly below it. -/
theorem children_eq (replica : Replica) (path : String) :
    replica.children ⟨path, none⟩ = ((below path replica.documents).filter fun (name, _) =>
      name ≠ "" && !name.toList.contains '/').map Prod.snd := by
  simp only [children, below, List.filter_filterMap, List.map_filterMap]
  rw [← List.filterMap_eq_map, List.filterMap_filter]
  apply List.filterMap_congr
  rintro ⟨other, document⟩ -
  simp only [isChild_eq, matchesCast, Option.all_none, Bool.and_true]
  cases Text.stripStart? (path ++ "/") other with
  | none => rfl
  | some name =>
      simp only [Option.any_some, Option.map_some, Option.filter_some, Function.comp_apply]
      split <;> rfl

end Documents

/-- A replica declares a collection and holds certain documents in it, each under a plain name. -/
structure HoldsResources (path : String) (resources : Documents) (replica : Replica) : Prop where
  declared : replica.collections.contains path = true
  noDocument : replica.documents.find? path = none
  below_eq : replica.documents.below path = resources
  plain : ∀ resource ∈ resources, IsPlainName resource.1

namespace HoldsResources

variable {path name url : String} {document : Json} {resources : Documents}
  {earlier later replica : Replica}

theorem of_same (holds : HoldsResources path resources earlier) (same : HoldsSame earlier later) :
    HoldsResources path resources later := by
  rcases holds with ⟨declared, noDocument, below_eq, plain⟩
  exact ⟨same.collections ▸ declared, same.documents ▸ noDocument, same.documents ▸ below_eq, plain⟩

/-- A collection that an empty replica declares is empty. -/
theorem of_empty {base : String} (origin : IsOrigin base) (plainPath : IsPlainPath path)
    (ids : IdSupply) :
    HoldsResources (base ++ path) [] ((Replica.empty ids).withCollection (base ++ path)) := by
  refine ⟨?_, rfl, rfl, List.forall_mem_nil _⟩
  rw [withCollection, Location.ofUrl_append origin plainPath]
  simp

/-- All that stands below a collection is listed. -/
theorem children (holds : HoldsResources path resources replica) :
    replica.children ⟨path, none⟩ = resources.map Prod.snd := by
  rw [Documents.children_eq, holds.below_eq, List.filter_eq_self.mpr]
  rintro ⟨name, document⟩ resource_mem
  have plainName := holds.plain _ resource_mem
  have noSlash := plainName.isPlainSegment.not_mem (by decide : '/' ∈ Url.marks)
  simp [plainName.given, noSlash]

/-- A declared collection can always be listed. -/
theorem read_ne_error (holds : HoldsResources path resources replica) (refusal : Nat × Json) :
    replica.read ⟨path, none⟩ ≠ .error refusal := by
  have declared : path ∈ replica.collections := by simpa using holds.declared
  simp [read, holds.noDocument, declared]

theorem find?_eq (holds : HoldsResources path resources replica) :
    replica.documents.find? (path ++ "/" ++ name) = resources.find? name := by
  rw [← Documents.find?_below, holds.below_eq]

/-- A document that is stored under a name takes the place of the one there, or comes last. -/
theorem store (holds : HoldsResources path resources earlier) (plain : IsPlainName name)
    (collections : later.collections = earlier.collections)
    (stores : later.documents = earlier.documents.store (path ++ "/" ++ name) document) :
    HoldsResources path (resources.store name document) later := by
  have notSelf : path ≠ path ++ "/" ++ name := by
    simp [← String.toList_inj]
  refine ⟨collections ▸ holds.declared, ?_, ?_, ?_⟩
  · rw [stores, Documents.find?_store_of_ne notSelf, holds.noDocument]
  · rw [stores, Documents.below_store, holds.below_eq]
  · obtain ⟨before, after, split, fewer⟩ := Documents.exists_store_eq name document resources
    rw [split]
    intro resource resource_mem
    rcases List.mem_append.mp resource_mem with before_mem | after_mem
    · exact holds.plain resource (fewer.subset (List.mem_append_left after before_mem))
    · rcases List.mem_cons.mp after_mem with rfl | after_mem
      · exact plain
      · exact holds.plain resource (fewer.subset (List.mem_append_right before after_mem))

/-- Nothing stands below a resource. -/
theorem not_isBelow (holds : HoldsResources path resources replica) {stored : String × Json}
    (stored_mem : stored ∈ replica.documents) : isBelow (path ++ "/" ++ name) stored.1 = false := by
  by_contra isBelow
  rw [Bool.not_eq_false, Replica.isBelow, Text.startsWith, Option.isSome_iff_exists] at isBelow
  obtain ⟨rest, dropped⟩ := isBelow
  have nested : stored.1 = path ++ "/" ++ (name ++ "/" ++ String.ofList rest) := by
    have characters := Text.eq_append_of_dropStart? dropped
    simp [← String.toList_inj, characters]
  have resource_mem : (name ++ "/" ++ String.ofList rest, stored.2) ∈ resources := by
    rw [← holds.below_eq, Documents.below, List.mem_filterMap]
    exact ⟨stored, stored_mem, by simp [nested, Documents.stripStart?_append]⟩
  have noSlash : '/' ∉ (name ++ "/" ++ String.ofList rest).toList :=
    (holds.plain _ resource_mem).isPlainSegment.not_mem (by decide)
  simp at noSlash

/-- A resource that is deleted leaves all other documents. -/
theorem filter_delete (holds : HoldsResources path resources replica) :
    (replica.documents.filter fun (other, _) =>
      other ≠ path ++ "/" ++ name && !isBelow (path ++ "/" ++ name) other) =
    replica.documents.filter fun (other, _) => other ≠ path ++ "/" ++ name := by
  apply List.filter_congr
  intro stored stored_mem
  simp [holds.not_isBelow stored_mem]

theorem delete (holds : HoldsResources path resources earlier)
    (collections : later.collections = earlier.collections)
    (deletes : later.documents = earlier.documents.filter fun (other, _) =>
      other ≠ path ++ "/" ++ name) :
    HoldsResources path (resources.filter fun (other, _) => other ≠ name) later := by
  have fewer : later.documents.Sublist earlier.documents := by
    rw [deletes]
    exact List.filter_sublist
  refine ⟨collections ▸ holds.declared, ?_, ?_, ?_⟩
  · have noDocument := holds.noDocument
    rw [Documents.find?, Members.find?_eq_none_iff] at noDocument ⊢
    exact fun stored stored_mem => noDocument stored (fewer.subset stored_mem)
  · rw [deletes, Documents.below_delete, holds.below_eq]
  · intro resource resource_mem
    exact holds.plain resource (List.mem_of_mem_filter resource_mem)

end HoldsResources

/-- The members of a resource with an id and a name added to them. -/
def resourceMembers (id name : String) (members : List (String × Json)) : List (String × Json) :=
  Members.insertNew "name" (.string name) (Members.insertNew "id" (.string id) members)

/-- The document that a replica makes of a resource. -/
def resourceDocument (id name : String) (members : List (String × Json)) : Json :=
  .object (resourceMembers id name members)

theorem find?_resourceMembers {id name other : String} {members : List (String × Json)}
    (noId : Members.find? "id" members = none) (noName : Members.find? "name" members = none) :
    Members.find? other (resourceMembers id name members) =
      if other = "name" then some (.string name)
      else if other = "id" then some (.string id)
      else Members.find? other members := by
  have differ : "name" ≠ "id" := by simp
  rw [resourceMembers]
  split
  · rename_i isName
    rw [isName, Members.find?_insertNew_self]
    rw [Members.find?_insertNew_of_ne differ, noName]
  · rename_i notName
    rw [Members.find?_insertNew_of_ne notName]
    split
    · rename_i isId
      rw [isId, Members.find?_insertNew_self noId]
    · rename_i notId
      exact Members.find?_insertNew_of_ne notId

section Runs

variable {Failure Next : Type} {schedule : Nat → Option RemoteError} {url : String}
  {members : List (String × Json)} {describe : RemoteError → Failure}
  {next : Json → Program Failure Next} {now last : Run Replica} {sent : List Exchange}
  {ending : Ending Failure Next}

/-- A request to put a resource is disturbed, and its program fails, or the resource is stored. -/
theorem put_of_runs
    (runs : ((Program.request ⟨.put, url, some (.object members)⟩).mapFailure describe >>=
      next).Runs (Client.interrupted schedule) now sent ending last) :
    (∃ cause, sent = [⟨⟨.put, url, some (.object members)⟩, .error cause⟩] ∧
      ending = .failed (describe cause) ∧ HoldsSame now.state last.state ∧
      ¬Calm schedule now.state) ∨
    ∃ state rest document,
      document = resourceDocument (resourceId (Location.ofUrl url).path)
        (lastSegment (Location.ofUrl url).path) members ∧
      sent = ⟨⟨.put, url, some (.object members)⟩, .ok document⟩ :: rest ∧
      state.documents = now.state.documents.store (Location.ofUrl url).path document ∧
      state.collections = now.state.collections ∧
      (next document).Runs (Client.interrupted schedule) { now with state } rest ending last := by
  obtain ⟨answer, state, rest, answers, rfl, goesOn⟩ := Program.Runs.of_send runs
  cases sends schedule ⟨.put, url, some (.object members)⟩ now.state with
  | disturbed cause later sends same isDisturbed =>
      obtain ⟨rfl, rfl⟩ := Prod.mk.inj (answers.symm.trans sends)
      obtain ⟨rfl, rfl, rfl⟩ := goesOn.unique Program.runs_fail
      exact .inl ⟨cause, rfl, rfl, same, isDisturbed⟩
  | refused requests failures refusal quiet handles sends =>
      simp [handle, bodyMembers, bind, Except.bind, pure, Except.pure] at handles
  | handled requests failures document later quiet handles sends =>
      obtain ⟨rfl, rfl⟩ := Prod.mk.inj (answers.symm.trans sends)
      simp only [handle, bodyMembers, bind, Except.bind, pure, Except.pure, replace,
        Except.ok.injEq, Prod.mk.injEq] at handles
      obtain ⟨rfl, rfl⟩ := handles
      refine .inr ⟨_, rest, _, rfl, rfl, ?_, ?_, goesOn⟩ <;> rfl

end Runs

end Replica

namespace ResourceManager

open Replica (HoldsResources HoldsSame Calm resourceDocument)

variable {manager : ResourceManager} {schedule : Nat → Option RemoteError}
  {path name version : String} {resources : Replica.Documents} {now last : Run Replica}
  {sent : List Exchange}

section

variable (named : manager.IsNamed) (plainPath : IsPlainPath path)
include named plainPath

/-- Listing a collection brings all of its resources unless the request is disturbed. -/
theorem brings_list {Element : Type} {element? : Json → Option Element} {items : List Element}
    (version what : String) (query : List (String × String)) (paged : manager.pageLimit ≠ 0)
    (holds : HoldsResources (manager.base ++ path) resources now.state)
    (decoded : Json.readAll? element? (resources.map Prod.snd) = some items) :
    Brings (manager.list element? what path version query)
      ⟨.get, manager.url path version query, none⟩ what schedule now items := by
  have location := named.ofUrl_url plainPath version query
  apply brings_readPages what paged
  · rw [Replica.document?, location]
    exact holds.noDocument
  · rw [location, holds.children]
    exact decoded

variable (plainName : IsPlainName name)
include plainName

theorem ofUrl_resource (version : String) (query : List (String × String)) :
    Replica.Location.ofUrl (manager.url (path ++ "/" ++ name) version query) =
      ⟨manager.base ++ path ++ "/" ++ name, none⟩ := by
  rw [named.ofUrl_url (plainPath.child plainName.isPlainSegment)]
  simp [← String.toList_inj]

/-- Putting a resource stores it under its name, and its program goes on with its document. -/
theorem put_of_runs {Next : Type} {members : List (String × Json)}
    {describe : RemoteError → OperationError} {next : Json → Program OperationError Next}
    {ending : Ending OperationError Next}
    (runs : ((manager.put (path ++ "/" ++ name) version (.object members)).mapFailure describe >>=
      next).Runs (Client.interrupted schedule) now sent ending last)
    (holds : HoldsResources (manager.base ++ path) resources now.state) :
    (∃ cause, sent = [⟨⟨.put, manager.url (path ++ "/" ++ name) version [],
        some (.object members)⟩, .error cause⟩] ∧ ending = .failed (describe cause) ∧
      HoldsSame now.state last.state ∧ ¬Calm schedule now.state) ∨
    ∃ state rest document, document = resourceDocument (path ++ "/" ++ name) name members ∧
      sent = ⟨⟨.put, manager.url (path ++ "/" ++ name) version [], some (.object members)⟩,
        .ok document⟩ :: rest ∧
      state.documents = now.state.documents.store (manager.base ++ path ++ "/" ++ name) document ∧
      HoldsResources (manager.base ++ path) (resources.store name document) state ∧
      (next document).Runs (Client.interrupted schedule) { now with state } rest ending last := by
  have location := ofUrl_resource named plainPath plainName version []
  have id_eq : Replica.resourceId (manager.base ++ path ++ "/" ++ name) = path ++ "/" ++ name := by
    have whole := Replica.resourceId_append named.origin (plainPath.child plainName.isPlainSegment)
    rwa [← String.append_assoc, ← String.append_assoc] at whole
  have name_eq : Replica.lastSegment (manager.base ++ path ++ "/" ++ name) = name :=
    Replica.lastSegment_append (plainName.isPlainSegment.not_mem (by decide))
  rcases Replica.put_of_runs runs with
    disturbed | ⟨state, rest, document, made, sent_eq, stores, collections, goesOn⟩
  · exact .inl disturbed
  · rw [location] at made stores
    rw [id_eq, name_eq] at made
    exact .inr ⟨state, rest, document, made, sent_eq, stores,
      holds.store plainName collections stores, goesOn⟩

/-- Deleting a resource takes it out of its collection, or it is not there. -/
theorem deletion_of_runs {describe : RemoteError → OperationError} {deleted : Deleted}
    {ending : Ending OperationError Deleted}
    (runs : ((manager.delete (path ++ "/" ++ name) version).mapFailure describe >>=
      fun _ : Unit => pure deleted).Runs (Client.interrupted schedule) now sent ending last)
    (holds : HoldsResources (manager.base ++ path) resources now.state) :
    (∃ cause, sent = [⟨⟨.delete, manager.url (path ++ "/" ++ name) version [], none⟩,
        .error cause⟩] ∧ ending = .failed (describe cause) ∧ HoldsSame now.state last.state ∧
      (Calm schedule now.state → resources.find? name = none ∧ cause.isNotFound = true)) ∨
    ∃ document, sent = [⟨⟨.delete, manager.url (path ++ "/" ++ name) version [], none⟩,
        .ok document⟩] ∧ ending = .returned deleted ∧ (resources.find? name).isSome ∧
      last.state.documents = (now.state.documents.filter fun (other, _) =>
        other ≠ manager.base ++ path ++ "/" ++ name) ∧
      HoldsResources (manager.base ++ path) (resources.filter fun (other, _) => other ≠ name)
        last.state := by
  have location := ofUrl_resource named plainPath plainName version []
  rcases Replica.deletion_of_runs rfl runs with
    ⟨cause, sent_eq, ending_eq, same, reason⟩ | ⟨document, sent_eq, ending_eq, stored, -, documents⟩
  · rw [Replica.document?, location, holds.find?_eq] at reason
    exact .inl ⟨cause, sent_eq, ending_eq, same, reason⟩
  · rw [Replica.document?, location, holds.find?_eq] at stored
    rw [location, holds.filter_delete] at documents
    have collections := (Replica.keeps_of_runs runs).1
    exact .inr ⟨document, sent_eq, ending_eq, stored, documents,
      holds.delete collections documents⟩

end

/-- The resource manager of the samples. -/
def sampleGroup : ResourceManager := ⟨"mock://arm", "sub-1", "rg-agents", 4⟩

theorem isNamed_sampleGroup : sampleGroup.IsNamed where
  origin := by
    refine ⟨"mock".toList, "arm".toList, rfl, by decide,
      ⟨"mock", "", none, some "arm", none, "/", none⟩, ?_⟩
    decide +kernel
  subscription := by decide
  group := by decide

end ResourceManager

end Provision
