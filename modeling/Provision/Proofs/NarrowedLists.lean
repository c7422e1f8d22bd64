import Provision.Proofs.BlueprintCreations

/-!
# Lists that are narrowed to a type

The documents of several types stand in one collection, and a list is narrowed to
one of them by a last segment that names it.  What a new document does to such
lists is told by its type alone: it joins those of its own type, and the others
only lose the document in whose place it is stored, if any.
-/

namespace Provision

open Replica (Location Documents matchesCast)

namespace Text

variable {needle text rest before : List Char}

theorem eq_append_of_dropStart? (found : dropStart? needle text = some rest) :
    text = needle ++ rest := by
  induction needle generalizing text with
  | nil => exact Option.some.inj found
  | cons wanted needle ih =>
      cases text with
      | nil => simp [dropStart?] at found
      | cons first text =>
          by_cases same : wanted = first
          · have below : dropStart? needle text = some rest := by
              simpa [dropStart?, same] using found
            rw [ih below, same]
            rfl
          · simp [dropStart?, same] at found

theorem eq_append_of_cut? (found : cut? needle text = some (before, rest)) :
    text = before ++ needle ++ rest := by
  induction text generalizing before with
  | nil =>
      cases needle with
      | nil => simp_all [cut?]
      | cons wanted needle => simp [cut?] at found
  | cons first text ih =>
      cases start : dropStart? needle (first :: text) with
      | some after =>
          simp only [cut?, start, Option.some.injEq, Prod.mk.injEq] at found
          obtain ⟨rfl, rfl⟩ := found
          exact eq_append_of_dropStart? start
      | none =>
          simp only [cut?, start, Option.map_eq_some_iff, Prod.exists, Prod.mk.injEq] at found
          obtain ⟨shorter, _, below, rfl, rfl⟩ := found
          rw [ih below]
          rfl

theorem dropStart?_append_apart (apart : ∀ char ∈ rest, char ∉ needle) :
    dropStart? needle (text ++ rest) = (dropStart? needle text).map (· ++ rest) := by
  induction needle generalizing text with
  | nil => rfl
  | cons wanted needle ih =>
      have apartBelow : ∀ char ∈ rest, char ∉ needle := by
        intro char rest_mem below
        exact apart char rest_mem (List.mem_cons_of_mem wanted below)
      cases text with
      | nil =>
          cases rest with
          | nil => rfl
          | cons other rest =>
              have different : wanted ≠ other := by
                rintro rfl
                exact apart wanted (by simp) (by simp)
              simp [dropStart?, different]
      | cons first text =>
          by_cases same : wanted = first
          · simpa [dropStart?, same] using ih apartBelow
          · simp [dropStart?, same]

/-- Nothing more is found in what is written in other characters. -/
theorem cut?_append_apart (given : needle ≠ []) (apart : ∀ char ∈ rest, char ∉ needle) :
    cut? needle (text ++ rest) =
      (cut? needle text).map fun (before, after) => (before, after ++ rest) := by
  induction text with
  | nil =>
      obtain ⟨wanted, wanted_mem⟩ := List.exists_mem_of_ne_nil needle given
      have nowhere : cut? needle rest = none :=
        cut?_eq_none wanted_mem fun rest_mem => apart wanted rest_mem wanted_mem
      have notInNothing : cut? needle [] = none := cut?_eq_none wanted_mem (by simp)
      rw [List.nil_append, nowhere, notInNothing, Option.map_none]
  | cons first text ih =>
      have extended : dropStart? needle (first :: text ++ rest) =
          (dropStart? needle (first :: text)).map (· ++ rest) := dropStart?_append_apart apart
      rw [List.cons_append] at extended ⊢
      cases found : dropStart? needle (first :: text) with
      | none => simp [cut?, extended, found, ih, Function.comp_def]
      | some after => simp [cut?, extended, found]

end Text

namespace Replica

/-- What stands below a base without a query begins alike, wherever the scheme and the host of the
base end. -/
theorem Location.exists_stem {base : String} (noQuery : '?' ∉ base.toList) :
    ∃ stem, ∀ list, IsSegment list → ':' ∉ list.toList →
      (Location.ofUrl (base ++ "/" ++ list)).path = stem ++ list := by
  have characters (list : String) :
      (base ++ "/" ++ list).toList = (base.toList ++ ['/']) ++ list.toList := by simp
  have whole {list : String} (segment : IsSegment list) :
      '?' ∉ (base.toList ++ ['/']) ++ list.toList := by
    simp [noQuery, segment.noQuery]
  have apart {list : String} (segment : IsSegment list) (noColon : ':' ∉ list.toList) :
      ∀ char ∈ list.toList, char ∉ "://".toList := by
    intro char list_mem needle_mem
    have isMark : char = ':' ∨ char = '/' := by simpa using needle_mem
    rcases isMark with rfl | rfl
    · exact noColon list_mem
    · exact segment.noSlash list_mem
  cases origin : Text.cut? "://".toList (base.toList ++ ['/']) with
  | none =>
      let kept := keptSegments (Text.pieces '/' base.toList)
      refine ⟨String.ofList (joinPath [] kept ++ ['/']), ?_⟩
      intro list segment noColon
      simp only [ofUrl, characters, Text.takeWhile_of_not_mem (whole segment), splitOrigin]
      rw [Text.cut?_append_apart (by decide) (apart segment noColon), origin]
      simp [Text.pieces_append, keptSegments_append, segment.keptSegments_eq, kept, joinPath,
        ← String.toList_inj]
  | some found =>
      rcases found with ⟨scheme, rest⟩
      have split := Text.eq_append_of_cut? origin
      rcases List.eq_nil_or_concat rest with rfl | ⟨inner, last, rfl⟩
      · -- the base is a scheme only, and the list is taken for the host
        refine ⟨String.ofList (scheme ++ "://".toList), ?_⟩
        intro list segment noColon
        have host : list.toList.takeWhile (· ≠ '/') = list.toList :=
          Text.takeWhile_of_not_mem segment.noSlash
        have nothing : (list.toList.dropWhile (· ≠ '/')).drop 1 = [] := by
          have none_left : list.toList.dropWhile (· ≠ '/') = [] := by
            rw [List.dropWhile_eq_nil_iff]
            intro char list_mem
            simpa using ne_of_mem_of_not_mem list_mem segment.noSlash
          rw [none_left]
          rfl
        have noSegment : keptSegments (Text.pieces '/' []) = [] := by decide
        simp only [ofUrl, characters, Text.takeWhile_of_not_mem (whole segment), splitOrigin]
        rw [Text.cut?_append_apart (by decide) (apart segment noColon), origin]
        simp only [Option.map_some, List.nil_append, host, nothing, noSegment]
        simp [joinPath, ← String.toList_inj]
      · obtain rfl : last = '/' := by
          rw [List.concat_eq_append, ← List.append_assoc] at split
          exact (List.singleton_inj.mp (List.append_inj' split rfl).2).symm
        let kept := keptSegments (Text.pieces '/' ((inner.dropWhile (· ≠ '/')).drop 1))
        let host := inner.takeWhile (· ≠ '/')
        refine ⟨String.ofList (joinPath (scheme ++ "://".toList ++ host) kept ++ ['/']), ?_⟩
        intro list segment noColon
        have inside : inner ++ ['/'] ++ list.toList = inner ++ '/' :: list.toList := by simp
        have hosted : (inner ++ '/' :: list.toList).takeWhile (· ≠ '/') = host :=
          takeWhile_append_cons _ _ (by simp)
        simp only [ofUrl, characters, Text.takeWhile_of_not_mem (whole segment), splitOrigin]
        rw [Text.cut?_append_apart (by decide) (apart segment noColon), origin]
        simp only [Option.map_some, List.concat_eq_append, inside, hosted,
          keptSegments_append_slash, segment.keptSegments_eq, joinPath_append]
        simp [joinPath, kept, ← String.toList_inj]

theorem exists_pieces_append_slash {stem added : List Char} :
    ∃ before, Text.pieces '/' (((stem ++ '/' :: added).dropWhile (· ≠ '/')).drop 1) =
      before ++ Text.pieces '/' added := by
  induction stem with
  | nil => exact ⟨[], by simp⟩
  | cons first stem ih =>
      by_cases slash : first = '/'
      · exact ⟨Text.pieces '/' stem, by simp [slash, Text.pieces_append]⟩
      · obtain ⟨before, segments⟩ := ih
        exact ⟨before, by simpa [slash] using segments⟩

/-- A last segment that names a type is what a list is narrowed to. -/
theorem Location.cast_ofUrl_narrowed {last : Char} {stem narrowing : List Char}
    (lastApart : last ∉ "://".toList) (noQuery : '?' ∉ stem ++ [last]) (whole : '?' ∉ narrowing)
    (noSlash : '/' ∉ narrowing) (isType : isCast narrowing = true) :
    (Location.ofUrl (String.ofList (stem ++ last :: '/' :: narrowing))).cast =
      some (Text.lastPiece '.' (String.ofList narrowing)) := by
  have split : stem ++ last :: '/' :: narrowing = (stem ++ [last]) ++ '/' :: narrowing := by simp
  have longWhole : '?' ∉ stem ++ last :: '/' :: narrowing := by
    rw [split, List.mem_append, not_or]
    exact ⟨noQuery, by simpa using whole⟩
  have noOrigin : Text.cut? "://".toList ('/' :: narrowing) = none := by
    apply Option.map_eq_none_iff.mpr
    exact Text.cut?_eq_none (by decide : '/' ∈ "://".toList) noSlash
  have narrowed (before : List (List Char)) : castOf? (before ++ Text.pieces '/' narrowing) =
      some (Text.lastPiece '.' (String.ofList narrowing)) := by
    simp [castOf?, Text.pieces_of_not_mem noSlash, isType]
  simp only [ofUrl, String.toList_ofList, Text.takeWhile_of_not_mem longWhole, splitOrigin]
  rw [Text.cut?_append (by decide) lastApart noOrigin]
  cases origin : Text.cut? "://".toList (stem ++ [last]) with
  | none =>
      simp only [Option.map_none, split, Text.pieces_append]
      exact narrowed _
  | some found =>
      obtain ⟨before, segments⟩ := @exists_pieces_append_slash found.2 narrowing
      simp only [Option.map_some, segments]
      exact narrowed before

section Children

variable {earlier later : Replica} {path : String} {document : Json} {documents : Documents}

/-- A list loses what is no longer stored. -/
theorem children_sublist (fewer : later.documents.Sublist earlier.documents)
    (location : Location) : (later.children location).Sublist (earlier.children location) :=
  (fewer.filter _).map _

theorem Documents.exists_store_eq (path : String) (document : Json) (documents : Documents) :
    ∃ before after, documents.store path document = before ++ (path, document) :: after ∧
      (before ++ after).Sublist documents := by
  induction documents with
  | nil => exact ⟨[], [], rfl, .slnil⟩
  | cons stored rest ih =>
      rcases stored with ⟨other, kept⟩
      by_cases same : other = path
      · exact ⟨[], rest, by simp [store, same], List.sublist_cons_self _ rest⟩
      · obtain ⟨before, after, stores, fewer⟩ := ih
        exact ⟨(other, kept) :: before, after, by simp [store, same, stores], fewer.cons_cons _⟩

/-- A document that is stored joins a list if it is of the right type, and takes the place of at
most one other. -/
theorem exists_children_store
    (stores : later.documents = earlier.documents.store path document) (location : Location) :
    ∃ before after, (before ++ after).Sublist (earlier.children location) ∧
      (later.children location = before ++ after ∨
        matchesCast location.cast document = true ∧
          later.children location = before ++ document :: after) := by
  obtain ⟨before, after, split, fewer⟩ :=
    Documents.exists_store_eq path document earlier.documents
  let listed (documents : Documents) : List Json :=
    (documents.filter fun stored =>
      isChild location.path stored.1 && matchesCast location.cast stored.2).map Prod.snd
  refine ⟨listed before, listed after, ?_, ?_⟩
  · have shorter : (listed (before ++ after)).Sublist (earlier.children location) :=
      (fewer.filter _).map _
    simpa [listed] using shorter
  · have later_eq : later.children location = listed (before ++ (path, document) :: after) := by
      rw [children, stores, split]
    rw [later_eq]
    by_cases joins : isChild location.path path = true ∧ matchesCast location.cast document = true
    · exact .inr ⟨joins.2, by simp [listed, joins]⟩
    · left
      simp [listed, joins]

/-- A new document is of the type that was sent with it, or of the one that the list it is added to
is narrowed to. -/
theorem type_of_handle_post {url : String} {members : List (String × Json)}
    (handles : earlier.handle ⟨.post, url, some (.object members)⟩ = .ok (document, later)) :
    document.get? "@odata.type" = (Members.find? "@odata.type" members).or
      ((Location.ofUrl url).cast.map fun cast => .string (typeName cast)) := by
  have same (replica : Replica) (path id : String) : Members.find? "@odata.type"
      (assignAppId replica path (Members.insert "id" (.string id) members)).1 =
        Members.find? "@odata.type" members := by
    rw [find?_assignAppId (by decide), Members.find?_insert_of_ne (by decide)]
  simp only [handle, bodyMembers, bind, Except.bind, pure, Except.pure, create, Except.ok.injEq,
    Prod.mk.injEq] at handles
  rw [← handles.1]
  cases (Location.ofUrl url).cast with
  | none => simp [Json.get?, Json.members?, same]
  | some cast =>
      cases typed : Members.find? "@odata.type" members with
      | none => simp [Json.get?, Json.members?, Members.find?_insertNew_self, same, typed]
      | some kind => simp [Json.get?, Json.members?, Members.insertNew, Members.has, same, typed]

theorem matchesCast_of_type {cast kind : String}
    (typed : document.get? "@odata.type" = some (.string kind)) :
    matchesCast (some cast) document =
      Text.sameIgnoringCase (Text.lastPiece '.' kind) cast := by
  simp [matchesCast, typed, Json.text?]

/-- A document of the right type that is stored under a segment is on the list. -/
theorem mem_children_store {segment : String} {location : Location} (isSegment : IsSegment segment)
    (isType : matchesCast location.cast document = true)
    (stored : later.documents.find? (location.path ++ "/" ++ segment) = some document) :
    document ∈ later.children location := by
  simp only [children, List.mem_map, List.mem_filter, Bool.and_eq_true]
  exact ⟨_, ⟨Members.mem_of_find? stored, isChild_segment isSegment _, isType⟩, rfl⟩

end Children

end Replica

namespace Directory

/-- Where the applications are. -/
def applicationsPath (directory : Directory) : String :=
  (Location.ofUrl (directory.url "applications")).path

/-- Where the service principals are. -/
def servicePrincipalsPath (directory : Directory) : String :=
  (Location.ofUrl (directory.url "servicePrincipals")).path

variable {directory : Directory}

/-- Applications and service principals stand side by side. -/
theorem exists_stem (noQuery : '?' ∉ directory.base.toList) :
    ∃ stem, directory.applicationsPath = stem ++ "applications" ∧
      directory.servicePrincipalsPath = stem ++ "servicePrincipals" := by
  obtain ⟨stem, below⟩ := Location.exists_stem noQuery
  have applications := below "applications" ⟨by decide, by decide, by decide, by decide⟩ (by decide)
  have principals :=
    below "servicePrincipals" ⟨by decide, by decide, by decide, by decide⟩ (by decide)
  exact ⟨stem, applications, principals⟩

/-- Nothing at the applications or below them stands at the service principals or below them. -/
theorem applications_ne_servicePrincipals (noQuery : '?' ∉ directory.base.toList)
    (below other : String) :
    directory.applicationsPath ++ below ≠ directory.servicePrincipalsPath ++ other := by
  obtain ⟨stem, applications, principals⟩ := exists_stem noQuery
  rw [applications, principals]
  intro same
  simp [← String.toList_inj] at same

/-- A list that is narrowed to a type is one of the documents of this type. -/
theorem ofUrl_narrowed (noQuery : '?' ∉ directory.base.toList) {first : Char}
    {list narrowing : List Char} (relative : first ≠ '/') (listWhole : '?' ∉ first :: list)
    (whole : '?' ∉ narrowing) (noSlash : '/' ∉ narrowing)
    (isType : Replica.isCast narrowing = true)
    (notKept : Replica.keptSegments (Text.pieces '/' narrowing) = []) :
    Location.ofUrl (directory.url
        (String.ofList (first :: (list ++ 's' :: '/' :: narrowing)))) =
      ⟨(Location.ofUrl (directory.url (String.ofList (first :: (list ++ ['s']))))).path,
        some (Text.lastPiece '.' (String.ofList narrowing))⟩ := by
  have noOrigin : Text.cut? "://".toList ('/' :: narrowing) = none := by
    apply Option.map_eq_none_iff.mpr
    exact Text.cut?_eq_none (by decide : '/' ∈ "://".toList) noSlash
  have split : directory.base.toList ++ '/' :: first :: (list ++ 's' :: '/' :: narrowing) =
      (directory.base.toList ++ '/' :: first :: list) ++ 's' :: '/' :: narrowing := by simp
  have path : (Location.ofUrl (directory.url
      (String.ofList (first :: (list ++ 's' :: '/' :: narrowing))))).path =
        (Location.ofUrl (directory.url (String.ofList (first :: (list ++ ['s']))))).path :=
    path_ofUrl_narrowed directory relative whole noOrigin notKept
  have cast : (Location.ofUrl (directory.url
      (String.ofList (first :: (list ++ 's' :: '/' :: narrowing))))).cast =
        some (Text.lastPiece '.' (String.ofList narrowing)) := by
    rw [url_of_relative directory relative, split]
    apply Location.cast_ofUrl_narrowed (by decide) _ whole noSlash isType
    simpa [noQuery] using listWhole
  rw [← path, ← cast]

end Directory

end Provision
