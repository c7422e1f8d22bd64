import Mathlib.Data.List.Infix
import Mathlib.Logic.Relation
import Provision.Proofs.CanonicalPaths

/-!
# The spellings of a path

The path that a URL leads to is written in one form: it has no query, it does not end in a slash,
and behind its scheme and host every segment stands for itself.  The texts of this form are exactly
the URLs that lead to themselves and narrow no list.

A slash where a segment ends, a segment that names a type, and a query can be written into a URL
behind its host without leading anywhere else.  What stands in front of such an insertion has the
scheme and the host already, so that they end where they did, and what is inserted adds no segment.
Therefore all spellings of a URL lead to the same path, and the document that is stored there can be
read, changed, replaced and deleted with each of them.  Only what a list is narrowed to may differ.
-/

namespace Provision.Replica

open Text (pieces)

variable {path url other : String} {origin segment : List Char} {segments : List (List Char)}

/-- A segment names a type if it begins with the namespace of the types, in letters of either
case. -/
def NamesType (segment : List Char) : Prop :=
  ∃ start ∈ ["graph.", "microsoft.graph."], start.toList <+: segment.map Text.lowerAscii

theorem isCast_iff : isCast segment = true ↔ NamesType segment := by
  simp only [isCast, NamesType, Bool.or_eq_true, Text.isSome_dropStart?_iff, List.mem_cons,
    List.not_mem_nil, or_false, exists_eq_or_imp, exists_eq_left]

/-- What a path has behind its scheme and its host. -/
def belowOrigin (path : String) : List Char :=
  path.toList.drop (splitOrigin path.toList).1.length

/-- The segments of a path, each of them behind a slash. -/
def segmentsBelow (path : String) : List (List Char) := (pieces '/' (belowOrigin path)).tail

/-- The form that all paths are written in. -/
structure IsCanonicalPath (path : String) : Prop where
  noQuery : '?' ∉ path.toList
  noTrailingSlash : (belowOrigin path).getLast? ≠ some '/'
  /-- Behind the origin there are only segments, with a slash in front of each. -/
  rooted : belowOrigin path = joinPath [] (segmentsBelow path)
  noneEmpty : [] ∉ segmentsBelow path
  noType : ∀ segment ∈ segmentsBelow path, ¬NamesType segment

theorem splitOrigin_prefix (text : List Char) : (splitOrigin text).1 <+: text := by
  rw [splitOrigin]
  cases found : Text.cut? "://".toList text with
  | none => exact List.nil_prefix
  | some parts =>
      obtain ⟨scheme, rest⟩ := parts
      rw [Text.eq_append_of_cut? found]
      exact (List.prefix_append_right_inj _).mpr (List.takeWhile_prefix _)

theorem IsCanonical.nil_not_mem_dropLast (canonical : IsCanonical origin segments) :
    [] ∉ segments.dropLast :=
  fun empty_mem => canonical.nil_not_mem (List.mem_of_mem_dropLast empty_mem)

theorem IsCanonical.belowOrigin_eq (canonical : IsCanonical origin segments) :
    belowOrigin (String.ofList (joinPath origin segments)) = joinPath [] segments := by
  obtain ⟨rest, split, -⟩ := exists_splitOrigin_joinPath canonical.isOrigin canonical.noSlash
    canonical.nil_not_mem_dropLast
  rw [belowOrigin, String.toList_ofList, split]
  simp [joinPath]

theorem IsCanonical.segmentsBelow_eq (canonical : IsCanonical origin segments) :
    segmentsBelow (String.ofList (joinPath origin segments)) = segments := by
  have divided : pieces '/' (joinPath [] segments) = [] :: segments := by
    refine @Text.pieces_joinPath segments [] ?_
    simpa using canonical.noSlash
  rw [segmentsBelow, canonical.belowOrigin_eq, divided, List.tail_cons]

/-- The last slash of a path is followed by a segment. -/
theorem getLast?_joinPath_ne (noneEmpty : [] ∉ segments)
    (noSlash : ∀ segment ∈ segments, '/' ∉ segment) :
    (joinPath [] segments).getLast? ≠ some '/' := by
  rcases List.eq_nil_or_concat segments with rfl | ⟨others, last, rfl⟩
  · simp [joinPath]
  · rw [List.concat_eq_append] at noneEmpty noSlash ⊢
    have given : last ≠ [] := by
      rintro rfl
      exact noneEmpty (by simp)
    have joined : joinPath [] (others ++ [last]) = (joinPath [] others ++ ['/']) ++ last := by
      simp [joinPath]
    rw [joined, List.getLast?_append_of_ne_nil _ given]
    intro ends
    exact noSlash last (by simp) (List.mem_of_getLast? ends)

theorem IsCanonical.isCanonicalPath (canonical : IsCanonical origin segments) :
    IsCanonicalPath (String.ofList (joinPath origin segments)) where
  noQuery := by simpa using canonical.not_mem
  noTrailingSlash := by
    rw [canonical.belowOrigin_eq]
    exact getLast?_joinPath_ne canonical.nil_not_mem canonical.noSlash
  rooted := by rw [canonical.segmentsBelow_eq, canonical.belowOrigin_eq]
  noneEmpty := by
    rw [canonical.segmentsBelow_eq]
    exact canonical.nil_not_mem
  noType := by
    rw [canonical.segmentsBelow_eq]
    intro segment segment_mem
    rw [← isCast_iff]
    simpa using (canonical.stand segment segment_mem).noCast

/-- A text in the form of a path is made up of an origin and of segments that stand for
themselves. -/
theorem IsCanonicalPath.exists_isCanonical (canonical : IsCanonicalPath path) :
    ∃ origin segments, path = String.ofList (joinPath origin segments) ∧
      IsCanonical origin segments := by
  let origin : List Char := (splitOrigin path.toList).1
  have begins : origin <+: path.toList := splitOrigin_prefix path.toList
  have characters : path.toList = joinPath origin (segmentsBelow path) := by
    calc
      path.toList = origin ++ belowOrigin path := List.prefix_append_drop begins
      _ = origin ++ joinPath [] (segmentsBelow path) := by rw [← canonical.rooted]
      _ = joinPath origin (segmentsBelow path) := by simp [joinPath]
  refine ⟨origin, segmentsBelow path, ?_, isPathOrigin_splitOrigin _, ?_, ?_⟩
  · rw [← characters, String.ofList_toList]
  · exact fun query => canonical.noQuery (begins.subset query)
  · intro segment segment_mem
    obtain ⟨noSlash, inside⟩ := Text.of_mem_pieces (List.mem_of_mem_tail segment_mem)
    have noQuery : '?' ∉ segment :=
      fun query => canonical.noQuery (List.mem_of_mem_drop (inside '?' query))
    have given : segment ≠ [] := ne_of_mem_of_not_mem segment_mem canonical.noneEmpty
    refine ⟨?_, ?_, ?_, ?_⟩
    · simpa [← String.toList_inj] using given
    · simpa using noSlash
    · simpa using noQuery
    · simpa [← isCast_iff] using canonical.noType segment segment_mem

/-- Every URL leads to a path in this form. -/
theorem Location.isCanonicalPath_ofUrl (url : String) : IsCanonicalPath (ofUrl url).path := by
  obtain ⟨origin, segments, path_eq, canonical⟩ := exists_isCanonical url
  rw [path_eq]
  exact canonical.isCanonicalPath

/-- A text in the form of a path leads to itself. -/
theorem IsCanonicalPath.ofUrl_eq (canonical : IsCanonicalPath path) :
    Location.ofUrl path = ⟨path, none⟩ := by
  obtain ⟨origin, segments, rfl, parts⟩ := canonical.exists_isCanonical
  have noneNarrows : segments.filter isCast = [] := by
    rw [List.filter_eq_nil_iff]
    intro segment segment_mem
    simpa using (parts.stand segment segment_mem).noCast
  rw [Location.ofUrl_joinPath parts.isOrigin parts.not_mem parts.noSlash
    parts.nil_not_mem_dropLast, parts.keptSegments_eq, castOf?, noneNarrows]
  rfl

/-- A text in front of which a segment ends, or the host of a URL. -/
def EndsSegment (rest : String) : Prop := ∀ first ∈ rest.toList.head?, first = '/' ∨ first = '?'

/-- A segment that narrows a list to a type. -/
structure IsNarrowing (segment : String) : Prop where
  namesType : NamesType segment.toList
  noSlash : '/' ∉ segment.toList
  noQuery : '?' ∉ segment.toList

/-- What can be inserted into a URL behind its host without leading anywhere else. -/
inductive Insertion : String → String → Prop
  /-- A slash where a segment ends: between two segments, or behind the last one. -/
  | slash (before : String) {after : String} (ends : EndsSegment after) :
      Insertion (before ++ after) (before ++ "/" ++ after)
  /-- A segment that names a type, behind another segment. -/
  | narrowing (before : String) {segment after : String} (ends : EndsSegment after)
      (isNarrowing : IsNarrowing segment) :
      Insertion (before ++ after) (before ++ "/" ++ segment ++ after)
  /-- A segment that names a type, behind a slash with no segment of its own. -/
  | narrowingSlash (before : String) {segment after : String} (ends : EndsSegment after)
      (isNarrowing : IsNarrowing segment) :
      Insertion (before ++ "/" ++ after) (before ++ "/" ++ segment ++ after)
  /-- A query behind everything else. -/
  | query (part query : String) : Insertion part (part ++ "?" ++ query)

section Insertions

variable {segment after part spelled : String}

/-- The path that is written in front of a query. -/
def pathBeforeQuery (text : String) : String := pathOf (text.toList.takeWhile (· ≠ '?'))

theorem EndsSegment.slash (rest : String) : EndsSegment ("/" ++ rest) := by
  intro first first_mem
  left
  simpa [eq_comm] using first_mem

theorem EndsSegment.slash_append (segment after : String) :
    EndsSegment ("/" ++ segment ++ after) := by
  rw [String.append_assoc]
  exact .slash _

theorem EndsSegment.takeWhile_cases (ends : EndsSegment after) :
    after.toList.takeWhile (· ≠ '?') = [] ∨
      ∃ more, after.toList.takeWhile (· ≠ '?') = '/' :: more := by
  cases letters : after.toList with
  | nil => exact .inl rfl
  | cons first others =>
      rcases ends first (by simp [letters]) with rfl | rfl
      · exact .inr ⟨others.takeWhile (· ≠ '?'), by simp⟩
      · exact .inl (by simp)

theorem pathOf_nil : pathOf [] = "" := by decide

theorem pathOf_slash (text : List Char) : pathOf ('/' :: text) = pathOf text := by
  have divided : pathOf ('/' :: text) = pathOf [] ++ pathOf text := pathOf_append_slash [] text
  rw [divided, pathOf_nil, String.empty_append]

/-- A segment that is left out of paths adds nothing behind a slash. -/
theorem pathBeforeQuery_leftOut (ends : EndsSegment after)
    (noSlash : '/' ∉ segment.toList) (noQuery : '?' ∉ segment.toList)
    (leftOut : segment = "" ∨ NamesType segment.toList) :
    pathBeforeQuery ("/" ++ segment ++ after) = pathBeforeQuery after := by
  have nothing : pathOf segment.toList = "" := by
    rw [pathOf_of_not_mem noSlash, if_pos]
    rwa [String.toList_eq_nil_iff, isCast_iff]
  have inFront : ∀ char ∈ '/' :: segment.toList, decide (char ≠ '?') = true := by
    intro char char_mem
    rcases List.mem_cons.mp char_mem with rfl | inside
    · decide
    · simpa using ne_of_mem_of_not_mem inside noQuery
  have characters : ("/" ++ segment ++ after).toList = ('/' :: segment.toList) ++ after.toList := by
    simp
  rw [pathBeforeQuery, pathBeforeQuery, characters, List.takeWhile_append_of_pos inFront,
    List.cons_append, pathOf_slash]
  rcases ends.takeWhile_cases with cutAll | ⟨more, cutLater⟩
  · rw [cutAll, List.append_nil, nothing, pathOf_nil]
  · rw [cutLater, pathOf_append_slash, nothing, String.empty_append, pathOf_slash]

theorem pathBeforeQuery_slash (ends : EndsSegment after) :
    pathBeforeQuery ("/" ++ after) = pathBeforeQuery after :=
  @pathBeforeQuery_leftOut "" after ends (by simp) (by simp) (.inl rfl)

theorem IsNarrowing.pathBeforeQuery_eq (isNarrowing : IsNarrowing segment)
    (ends : EndsSegment after) :
    pathBeforeQuery ("/" ++ segment ++ after) = pathBeforeQuery after :=
  pathBeforeQuery_leftOut ends isNarrowing.noSlash isNarrowing.noQuery (.inr isNarrowing.namesType)

/-- What follows where a segment ends adds its path, wherever the scheme and the host end. -/
theorem Location.exists_path_ofUrl_append {scheme before : String}
    (noQuery : '?' ∉ (scheme ++ "://" ++ before).toList) :
    ∃ stem, ∀ after, EndsSegment after →
      (ofUrl (scheme ++ "://" ++ before ++ after)).path = stem ++ pathBeforeQuery after := by
  -- the scheme is found in front of `before`, so that what follows can only add segments
  obtain ⟨front, back, found⟩ := Text.exists_cut?_append "://".toList scheme.toList
  let behind : List Char := back ++ before.toList
  let stem : List Char := joinPath (front ++ "://".toList ++ behind.takeWhile (· ≠ '/'))
    (keptSegments (pieces '/' ((behind.dropWhile (· ≠ '/')).drop 1)))
  refine ⟨String.ofList stem, ?_⟩
  intro after ends
  let cut : List Char := after.toList.takeWhile (· ≠ '?')
  have whole : ∀ char ∈ (scheme ++ "://" ++ before).toList, decide (char ≠ '?') = true := by
    intro char char_mem
    simpa using ne_of_mem_of_not_mem char_mem noQuery
  have inFront : (scheme ++ "://" ++ before ++ after).toList.takeWhile (· ≠ '?') =
      scheme.toList ++ "://".toList ++ (before.toList ++ cut) := by
    rw [String.toList_append, List.takeWhile_append_of_pos whole]
    simp [cut]
  have split : Text.cut? "://".toList (scheme.toList ++ "://".toList ++ (before.toList ++ cut)) =
      some (front, behind ++ cut) := by
    rw [found, List.append_assoc]
  simp only [ofUrl, inFront, splitOrigin, split, pathBeforeQuery]
  rcases ends.takeWhile_cases with cutAll | ⟨more, cutLater⟩
  · simp only [cut, cutAll, List.append_nil, pathOf_nil, String.append_empty, stem]
  · have hosted : (behind ++ '/' :: more).takeWhile (· ≠ '/') = behind.takeWhile (· ≠ '/') :=
      takeWhile_append_cons _ _ (by simp)
    have added : pathOf ('/' :: more) =
        String.ofList (joinPath [] (keptSegments (pieces '/' more))) := pathOf_slash more
    simp only [cut, cutLater, hosted, keptSegments_append_slash, joinPath_append,
      String.ofList_append, added, stem]

/-- Of what follows where a segment ends only the path counts. -/
theorem Location.path_ofUrl_append_congr (scheme before : String) {after later : String}
    (ends : EndsSegment after) (laterEnds : EndsSegment later)
    (same : pathBeforeQuery later = pathBeforeQuery after) :
    (ofUrl (scheme ++ "://" ++ before ++ later)).path =
      (ofUrl (scheme ++ "://" ++ before ++ after)).path := by
  by_cases query : '?' ∈ (scheme ++ "://" ++ before).toList
  · have cutOff (rest : String) : ofUrl (scheme ++ "://" ++ before ++ rest) =
        ofUrl (scheme ++ "://" ++ before) := by
      have leads := @ofUrl_append_of_query rest.toList _ query
      rwa [← String.toList_append, String.ofList_toList, String.ofList_toList] at leads
    rw [cutOff, cutOff]
  · obtain ⟨stem, adds⟩ := exists_path_ofUrl_append query
    rw [adds later laterEnds, adds after ends, same]

/-- One insertion does not change the path of a URL. -/
theorem Insertion.path_ofUrl (insertion : Insertion part spelled) (scheme host : String) :
    (Location.ofUrl (scheme ++ "://" ++ host ++ spelled)).path =
      (Location.ofUrl (scheme ++ "://" ++ host ++ part)).path := by
  cases insertion with
  | @slash before _ ends =>
      have same := Location.path_ofUrl_append_congr scheme (host ++ before) ends (.slash _)
        (pathBeforeQuery_slash ends)
      simpa only [String.append_assoc] using same
  | @narrowing before _ _ ends isNarrowing =>
      have same := Location.path_ofUrl_append_congr scheme (host ++ before) ends (.slash_append _ _)
        (isNarrowing.pathBeforeQuery_eq ends)
      simpa only [String.append_assoc] using same
  | @narrowingSlash before _ _ ends isNarrowing =>
      have same := Location.path_ofUrl_append_congr scheme (host ++ before) (.slash _)
        (.slash_append _ _)
        ((isNarrowing.pathBeforeQuery_eq ends).trans (pathBeforeQuery_slash ends).symm)
      simpa only [String.append_assoc] using same
  | query query =>
      rw [← String.append_assoc, ← String.append_assoc, Location.ofUrl_append_query]

/-- Insertions one after the other do not change the path of a URL. -/
theorem path_ofUrl_of_insertions (insertions : Relation.ReflTransGen Insertion part spelled)
    (scheme host : String) :
    (Location.ofUrl (scheme ++ "://" ++ host ++ spelled)).path =
      (Location.ofUrl (scheme ++ "://" ++ host ++ part)).path := by
  induction insertions with
  | refl => rfl
  | tail _ insertion ih => exact (insertion.path_ofUrl scheme host).trans ih

end Insertions

/-- Two URLs lead to the same document of a replica, whether it is read, changed, replaced, deleted
or first stored. -/
structure LeadAlike (url other : String) (replica : Replica) : Prop where
  document : replica.document? other = replica.document? url
  read : ∀ document body, replica.document? url = some document →
    replica.handle ⟨.get, other, body⟩ = .ok (document, replica)
  written : ∀ verb ∈ [Verb.patch, Verb.put, Verb.delete], ∀ body,
    replica.handle ⟨verb, other, body⟩ = replica.handle ⟨verb, url, body⟩
  stored : ∀ document, replica.withDocument other document = replica.withDocument url document

theorem leadAlike_of_path (same : (Location.ofUrl other).path = (Location.ofUrl url).path)
    (replica : Replica) : LeadAlike url other replica where
  document := by rw [document?, document?, same]
  read := by
    intro document body stored
    have found : replica.documents.find? (Location.ofUrl other).path = some document := by
      rw [same]
      exact stored
    simp only [handle, read, found]
    rfl
  written := by
    intro verb verb_mem body
    simp only [List.mem_cons, List.not_mem_nil, or_false] at verb_mem
    rcases verb_mem with rfl | rfl | rfl <;> simp only [handle, same]
  stored := by
    intro document
    rw [withDocument, withDocument, same]

/-- The paths that URLs lead to are the texts in the form of a path, each of which leads to itself
and narrows no list; and insertions behind the host of a URL, however many, change neither the path
nor the document that is reached there. -/
theorem Location.paths_canonical :
    (∀ url, IsCanonicalPath (ofUrl url).path ∧
      ofUrl (ofUrl url).path = ⟨(ofUrl url).path, none⟩) ∧
    (∀ path, IsCanonicalPath path ↔ ∃ url, (ofUrl url).path = path) ∧
    ∀ scheme host part spelled, Relation.ReflTransGen Insertion part spelled →
      let url := scheme ++ "://" ++ host ++ part
      let other := scheme ++ "://" ++ host ++ spelled
      (ofUrl other).path = (ofUrl url).path ∧ ∀ replica, LeadAlike url other replica := by
  refine ⟨?_, ?_, ?_⟩
  · intro url
    have canonical := isCanonicalPath_ofUrl url
    exact ⟨canonical, canonical.ofUrl_eq⟩
  · intro path
    constructor
    · intro canonical
      exact ⟨path, congrArg Location.path canonical.ofUrl_eq⟩
    · rintro ⟨url, rfl⟩
      exact isCanonicalPath_ofUrl url
  · intro scheme host part spelled insertions url other
    have same : (ofUrl other).path = (ofUrl url).path :=
      path_ofUrl_of_insertions insertions scheme host
    exact ⟨same, leadAlike_of_path same⟩

/-- An application is found under a URL with a slash, a type and a query more than its own. -/
theorem Location.paths_canonical_sample :
    let part := "/beta/applications/a"
    let spelled := "/beta//applications/Graph.agentIdentityBlueprint/a/?$select=id"
    let url := "mock" ++ "://" ++ "graph" ++ part
    let other := "mock" ++ "://" ++ "graph" ++ spelled
    let replica := (empty ⟨fun _ => "", 0⟩).withDocument url (.string "held")
    Relation.ReflTransGen Insertion part spelled ∧ IsCanonicalPath url ∧
      ofUrl url = ⟨url, none⟩ ∧ (ofUrl other).path = url ∧
      replica.handle ⟨.get, other, none⟩ = .ok (.string "held", replica) := by
  intro part spelled url other replica
  let doubled : String := "/beta//applications/a"
  let narrowed : String := "/beta//applications/Graph.agentIdentityBlueprint/a"
  have isNarrowing : IsNarrowing "Graph.agentIdentityBlueprint" :=
    ⟨⟨"graph.", by simp, by decide⟩, by decide, by decide⟩
  have doubles : Insertion part doubled :=
    @Insertion.slash "/beta" "/applications/a" (.slash "applications/a")
  have narrows : Insertion doubled narrowed :=
    @Insertion.narrowing "/beta//applications" _ "/a" (.slash "a") isNarrowing
  have ends : Insertion narrowed (narrowed ++ "/") :=
    @Insertion.slash narrowed "" (by simp [EndsSegment])
  have selects : Insertion (narrowed ++ "/") spelled := .query _ "$select=id"
  have insertions : Relation.ReflTransGen Insertion part spelled :=
    (((Relation.ReflTransGen.single doubles).tail narrows).tail ends).tail selects
  obtain ⟨canonical, -, spellings⟩ := paths_canonical
  obtain ⟨same, alike⟩ := spellings "mock" "graph" part spelled insertions
  have path_eq : (ofUrl url).path = url := by decide +kernel
  obtain ⟨form, itself⟩ := canonical url
  rw [path_eq] at form itself
  have stored : replica.document? url = some (.string "held") := Documents.find?_store_self
  exact ⟨insertions, form, itself, same.trans path_eq, (alike replica).read _ none stored⟩

end Provision.Replica
