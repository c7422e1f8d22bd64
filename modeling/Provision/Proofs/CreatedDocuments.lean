import Provision.Proofs.CanonicalPaths
import Provision.Uuid

/-!
# Reading what was created

A new document is stored below the path of its list, under its id as it is written.  Whoever reads
it sends a URL, and the replica reads that URL once more: it cuts off what follows a question mark,
and leaves out segments that are empty or name a type.  The list shows only documents whose id is a
single segment.  So a new document can be read back, in both ways, exactly if its id stands for
itself as a segment.  An id that is made up always does; an id that is sent is not checked.
-/

namespace Provision

open Replica (IsSegment isCast_eq_false)

namespace Uuid

variable {mark : Char}

/-- What is no hexadecimal digit is not among the digits of a number. -/
theorem not_mem_toDigits (noDigit : ∀ digit : Fin 16, mark ≠ Nat.digitChar digit) (value : Nat) :
    mark ∉ Nat.toDigits 16 value := by
  induction value using Nat.strongRecOn with
  | ind value ih =>
      rw [Nat.toDigits_eq_if (by decide)]
      split
      case isTrue small => simpa using noDigit ⟨value, small⟩
      case isFalse large =>
        have notLast := noDigit ⟨value % 16, by omega⟩
        simp [ih (value / 16) (by omega), notLast]

theorem not_mem_hexDigits (noDigit : ∀ digit : Fin 16, mark ≠ Nat.digitChar digit)
    (count value : Nat) : mark ∉ (hexDigits count value).toList := by
  have notZero : mark ≠ '0' := noDigit 0
  simp [hexDigits, not_mem_toDigits noDigit, List.mem_replicate, notZero]

/-- An id that is made up has only digits and dashes. -/
theorem not_mem_ofNat (noDigit : ∀ digit : Fin 16, mark ≠ Nat.digitChar digit)
    (notDash : mark ≠ '-') (bits : Nat) : mark ∉ (ofNat bits).toList := by
  have notVersion : mark ∉ "-4".toList := by
    simpa using ⟨notDash, noDigit 4⟩
  simp only [ofNat, String.toList_append, List.mem_append, not_mem_hexDigits noDigit, notVersion]
  simpa using notDash

/-- An id that is made up stands for itself in a path. -/
theorem isSegment_ofNat (bits : Nat) : IsSegment (ofNat bits) := by
  have dash_mem : '-' ∈ (ofNat bits).toList := by
    rw [ofNat, String.toList_append, String.toList_append]
    exact List.mem_append_left _ (List.mem_append_right _ (by decide))
  have noDot : '.' ∉ (ofNat bits).toList := not_mem_ofNat (by decide) (by decide) bits
  refine ⟨?_, not_mem_ofNat (by decide) (by decide) bits,
    not_mem_ofNat (by decide) (by decide) bits, isCast_eq_false noDot⟩
  rintro empty
  rw [empty] at dash_mem
  contradiction

end Uuid

namespace Replica

variable {replica earlier later : Replica} {url id path : String} {document : Json}
  {documents : Documents} {location : Location} {members : List (String × Json)}

/-- A request to read is answered with a document if no failure is due and there is nothing else to
read. -/
theorem answer_get_eq_ok_iff : (replica.answer ⟨.get, url, none⟩).1 = .ok document ↔
    replica.due? ⟨.get, url, none⟩ = none ∧ replica.read (.ofUrl url) = .ok document := by
  cases due : replica.due? ⟨.get, url, none⟩ with
  | some failure => simp [answer_eq, due]
  | none =>
      have sends := send_get due
      change replica.answer _ = _ at sends
      rw [sends]
      cases replica.read (.ofUrl url) <;> simp

/-- A document with an id is no list, so that it is read only from where it is stored. -/
theorem read_eq_ok_iff (hasId : document.get? "id" = some (.string id)) :
    replica.read location = .ok document ↔
      replica.documents.find? location.path = some document := by
  cases stored : replica.documents.find? location.path with
  | some other => simp [read, stored]
  | none =>
      have notRead : replica.read location ≠ .ok document := by
        intro isRead
        rcases read_list stored with isList | ⟨⟨refusal, refused⟩, -⟩
        · rw [isList] at isRead
          cases isRead
          contradiction
        · simp [refused] at isRead
      simp [notRead]

/-- A list with a document on it is read in full. -/
theorem read_eq_list (absent : replica.documents.find? location.path = none)
    (listed : document ∈ replica.children location) :
    replica.read location = .ok (.object [("value", .array (replica.children location))]) := by
  rcases read_list absent with isRead | ⟨-, nothing⟩
  · exact isRead
  · simp [nothing] at listed

/-- A document can be read back under its id: from its own URL below the list, and with the
list. -/
structure ReadsBack (replica : Replica) (url id : String) (document : Json) : Prop where
  found : (replica.answer ⟨.get, (Location.ofUrl url).path ++ "/" ++ id, none⟩).1 = .ok document
  listed : ∃ documents, document ∈ documents ∧
    (replica.answer ⟨.get, url, none⟩).1 = .ok (.object [("value", .array documents)])

/-- A document with an id was added below the path of a list, as one of the type of the list. -/
structure Adds (earlier later : Replica) (url id : String) (document : Json) : Prop where
  hasId : document.get? "id" = some (.string id)
  isType : matchesCast (Location.ofUrl url).cast document = true
  documents : later.documents =
    earlier.documents.store ((Location.ofUrl url).path ++ "/" ++ id) document

theorem adds_of_answer_post (untyped : Members.find? "@odata.type" members = none)
    (posts : earlier.answer ⟨.post, url, some (.object members)⟩ = (.ok document, later)) :
    Adds earlier later url (earlier.newId members) document := by
  let request : Request := ⟨.post, url, some (.object members)⟩
  have handles : (earlier.asked request).handle request = .ok (document, later) := by
    rw [answer_eq] at posts
    split at posts
    · simp at posts
    · simp at posts
    · next handled =>
        obtain ⟨⟨⟩, rfl⟩ := Prod.mk.inj posts
        exact handled
  have isType := matchesCast_of_handle_post untyped handles
  obtain ⟨hasId, stores⟩ := @create_stores (earlier.asked request) (Location.ofUrl url) members
  have created : (earlier.asked request).create (Location.ofUrl url) members = (document, later) :=
    Except.ok.inj handles
  rw [created] at hasId stores
  exact ⟨hasId, isType, stores⟩

theorem Documents.mem_store_iff {stored : String × Json} (different : stored.1 ≠ path) :
    stored ∈ documents.store path document ↔ stored ∈ documents := by
  have same := @filter_others_store path document documents
  have kept := congrArg (stored ∈ ·) same
  simpa [different] using kept

theorem mem_children_iff : document ∈ replica.children location ↔
    matchesCast location.cast document = true ∧
      ∃ path, (path, document) ∈ replica.documents ∧ isChild location.path path = true := by
  simp only [children, List.mem_map, List.mem_filter, Bool.and_eq_true, Prod.exists]
  constructor
  · rintro ⟨path, _, ⟨stored, child, isType⟩, rfl⟩
    exact ⟨isType, path, stored, child⟩
  · rintro ⟨isType, path, stored, child⟩
    exact ⟨path, document, ⟨stored, child, isType⟩, rfl⟩

/-- A document that is added joins the list if its path is that of one segment more. -/
theorem Adds.mem_children_iff (adds : Adds earlier later url id document) :
    document ∈ later.children (.ofUrl url) ↔
      isChild (Location.ofUrl url).path ((Location.ofUrl url).path ++ "/" ++ id) = true ∨
        document ∈ earlier.children (.ofUrl url) := by
  simp only [Replica.mem_children_iff, adds.isType, adds.documents, true_and]
  constructor
  · rintro ⟨path, stored, child⟩
    by_cases same : path = (Location.ofUrl url).path ++ "/" ++ id
    · exact .inl (same ▸ child)
    · exact .inr ⟨path, (Documents.mem_store_iff same).mp stored, child⟩
  · have added := Members.mem_of_find?
      (@Documents.find?_store_self ((Location.ofUrl url).path ++ "/" ++ id) document
        earlier.documents)
    rintro (child | ⟨path, stored, child⟩)
    · exact ⟨_, added, child⟩
    · by_cases same : path = (Location.ofUrl url).path ++ "/" ++ id
      · exact ⟨_, added, same ▸ child⟩
      · exact ⟨path, (Documents.mem_store_iff same).mpr stored, child⟩

theorem Adds.absent (adds : Adds earlier later url id document)
    (noDocument : earlier.document? url = none) : later.document? url = none := by
  have below : (Location.ofUrl url).path ≠ (Location.ofUrl url).path ++ "/" ++ id := by
    intro same
    simpa using congrArg String.toList same
  rw [document?, adds.documents, Documents.find?_store_of_ne below]
  exact noDocument

/-- A document whose id is no segment is read only if an equal one was on the list before. -/
theorem Adds.isSegment_or_mem (adds : Adds earlier later url id document)
    (noDocument : earlier.document? url = none)
    (found : later.document? ((Location.ofUrl url).path ++ "/" ++ id) = some document)
    (listed : document ∈ later.children (.ofUrl url)) :
    IsSegment id ∨ document ∈ earlier.children (.ofUrl url) := by
  by_cases segment : IsSegment id
  · exact .inl segment
  right
  rcases adds.mem_children_iff.mp listed with child | before
  · have noSlash : '/' ∉ id.toList := by
      obtain ⟨segment, same, -, noSlash⟩ := isChild_iff.mp child
      rwa [(String.append_right_inj _).mp same]
    rw [document?] at found
    rcases Location.path_ofUrl_below_cases url noSlash segment with back | ⟨other, aside⟩
    · -- what is left of the id is no segment, and the list itself is asked for
      have nothing : later.documents.find? (Location.ofUrl url).path = none :=
        adds.absent noDocument
      rw [back, nothing] at found
      exact absurd found.symm (Option.some_ne_none document)
    · obtain ⟨otherSegment, different, leads⟩ := aside
      have elsewhere : (Location.ofUrl url).path ++ "/" ++ other ≠
          (Location.ofUrl url).path ++ "/" ++ id := by
        rwa [ne_eq, String.append_right_inj]
      rw [leads, adds.documents, Documents.find?_store_of_ne elsewhere] at found
      exact mem_children_store otherSegment adds.isType found
  · exact before

/-- A document that was added is read back exactly if no failure is due and its id is a segment, or
if an equal document was on the list before and is found where the id leads. -/
theorem Adds.readsBack_iff (adds : Adds earlier later url id document)
    (noDocument : earlier.document? url = none) :
    later.ReadsBack url id document ↔
      (later.due? ⟨.get, (Location.ofUrl url).path ++ "/" ++ id, none⟩ = none ∧
        later.due? ⟨.get, url, none⟩ = none) ∧
      (IsSegment id ∨ document ∈ earlier.children (.ofUrl url) ∧
        later.document? ((Location.ofUrl url).path ++ "/" ++ id) = some document) := by
  have absent : later.documents.find? (Location.ofUrl url).path = none := adds.absent noDocument
  constructor
  · rintro ⟨found, documents, document_mem, listed⟩
    obtain ⟨itemCalm, isRead⟩ := answer_get_eq_ok_iff.mp found
    obtain ⟨listCalm, isList⟩ := answer_get_eq_ok_iff.mp listed
    have there := (read_eq_ok_iff adds.hasId).mp isRead
    have onList : document ∈ later.children (.ofUrl url) := by
      rcases read_list absent with read_eq | ⟨⟨refusal, refused⟩, -⟩
      · rw [read_eq] at isList
        cases isList
        exact document_mem
      · simp [refused] at isList
    refine ⟨⟨itemCalm, listCalm⟩, ?_⟩
    rcases adds.isSegment_or_mem noDocument there onList with segment | before
    · exact .inl segment
    · exact .inr ⟨before, there⟩
  · rintro ⟨⟨itemCalm, listCalm⟩, readable⟩
    have there : later.document? ((Location.ofUrl url).path ++ "/" ++ id) = some document := by
      rcases readable with segment | ⟨-, there⟩
      · rw [document?, segment.path_ofUrl_below url, adds.documents, Documents.find?_store_self]
      · exact there
    have onList : document ∈ later.children (.ofUrl url) := by
      apply adds.mem_children_iff.mpr
      rcases readable with segment | ⟨before, -⟩
      · exact .inl (isChild_segment segment _)
      · exact .inr before
    have isRead := (read_eq_ok_iff adds.hasId).mpr there
    have isList := read_eq_list absent onList
    exact ⟨answer_get_eq_ok_iff.mpr ⟨itemCalm, isRead⟩, _, onList,
      answer_get_eq_ok_iff.mpr ⟨listCalm, isList⟩⟩

/-- A document that was created can be read back under its id, as long as the documents stay as they
are and no failure is due, exactly if the id is a segment of a path; an id that was made up is one.
Otherwise an equal document must have been on the list before. -/
theorem created_reads_back_iff {replica later : Replica} {url : String}
    {members : List (String × Json)} {document : Json}
    (untyped : Members.find? "@odata.type" members = none)
    (noDocument : replica.document? url = none)
    (posts : replica.answer ⟨.post, url, some (.object members)⟩ = (.ok document, later)) :
    let id := replica.newId members
    let itemUrl := (Location.ofUrl url).path ++ "/" ++ id
    document.get? "id" = some (.string id) ∧
      ((Members.find? "id" members).bind Json.text? = none →
        ∀ bits, replica.ids.current = Uuid.ofNat bits → IsSegment id) ∧
      ∀ now : Replica, now.documents = later.documents →
        (now.ReadsBack url id document ↔
          (now.due? ⟨.get, itemUrl, none⟩ = none ∧ now.due? ⟨.get, url, none⟩ = none) ∧
          (IsSegment id ∨ document ∈ replica.children (.ofUrl url) ∧
            now.document? itemUrl = some document)) := by
  intro id itemUrl
  have adds : Adds replica later url id document := adds_of_answer_post untyped posts
  refine ⟨adds.hasId, ?_, ?_⟩
  · intro unnamed bits generated
    have id_eq : id = Uuid.ofNat bits := by
      simp only [id, newId, unnamed, Option.getD_none, generated]
    rw [id_eq]
    exact Uuid.isSegment_ofNat bits
  · intro now documents
    have nowAdds : Adds replica now url id document :=
      ⟨adds.hasId, adds.isType, documents.trans adds.documents⟩
    exact nowAdds.readsBack_iff noDocument

/-- A replica of a directory without users, and the URL of its guests. -/
def noUsers : Replica := (empty ⟨Uuid.ofNat, 5⟩).withCollection "mock://graph/beta/users"

def guestsUrl : String := "mock://graph/beta/users/graph.guest?$top=1"

def guest : Json :=
  .object [("@odata.type", .string "#microsoft.graph.guest"), ("id", .string (Uuid.ofNat 5))]

/-- A guest gets an id on the list of guests, and is read back. -/
theorem created_reads_back_iff_sample :
    ∃ later, noUsers.answer ⟨.post, guestsUrl, some (.object [])⟩ = (.ok guest, later) ∧
      later.ReadsBack guestsUrl (Uuid.ofNat 5) guest := by
  have created : (noUsers.answer ⟨.post, guestsUrl, some (.object [])⟩).1 = .ok guest := by
    decide +kernel
  have calm : (noUsers.answer ⟨.post, guestsUrl, some (.object [])⟩).2.failures = [] := by
    decide +kernel
  rcases posts : noUsers.answer ⟨.post, guestsUrl, some (.object [])⟩ with ⟨answer, later⟩
  rw [posts] at created calm
  obtain rfl : answer = .ok guest := created
  obtain ⟨-, made, reads_iff⟩ :=
    @created_reads_back_iff noUsers later guestsUrl [] guest (by decide) (by decide +kernel) posts
  have id_eq : noUsers.newId [] = Uuid.ofNat 5 := rfl
  have segment := made rfl 5 id_eq
  rw [id_eq] at segment reads_iff
  have calms (url : String) : later.due? ⟨.get, url, none⟩ = none := by
    rw [due?, calm, takeFailure]
  exact ⟨later, rfl, (reads_iff later rfl).mpr ⟨⟨calms _, calms _⟩, .inl segment⟩⟩

/-- A user whose id has a question mark is created, and stands on the list, but is not found where
the id leads. -/
theorem created_not_found :
    let url := "mock://graph/beta/users"
    let user : List (String × Json) := [("id", .string "a?b")]
    let posted := noUsers.answer ⟨.post, url, some (.object user)⟩
    Members.find? "@odata.type" user = none ∧ noUsers.document? url = none ∧
      noUsers.failures = [] ∧ posted.1 = .ok (.object user) ∧
      (posted.2.answer ⟨.get, url ++ "/a?b", none⟩).1 = .error (.refused .get (url ++ "/a?b") 404
        (notFound (url ++ "/a")).2.compact) ∧
      ¬posted.2.ReadsBack url "a?b" (.object user) := by
  intro url user posted
  have refused : (posted.2.answer ⟨.get, url ++ "/a?b", none⟩).1 =
      .error (.refused .get (url ++ "/a?b") 404 (notFound (url ++ "/a")).2.compact) := by
    decide +kernel
  refine ⟨by decide, by decide, rfl, by decide +kernel, refused, ?_⟩
  rintro ⟨found, -⟩
  have itemUrl : (Location.ofUrl url).path ++ "/" ++ "a?b" = url ++ "/a?b" := by decide +kernel
  rw [itemUrl, refused] at found
  simp at found

end Replica

end Provision
