import Provision.Proofs.DirectoryDeletions
import Provision.Proofs.NarrowedLists

/-!
# Paths that are read again

The path of a URL is a scheme and a host, or neither of them, and the segments behind it.  It is a
URL itself, and when a replica reads it once more, the scheme ends at the same place, and the
segments are divided as before: no two slashes stand side by side in a path, so that there is no
second place where a scheme could end.  Therefore it can be told where a text leads that is written
behind a path, whatever the URL was that the path comes from.
-/

namespace Provision

namespace Text

variable {needle text before rest piece : List Char} {separator : Char}

/-- What begins a text is seen in as many of its characters. -/
theorem dropStart?_append_of_length_le (long : needle.length ≤ text.length) :
    dropStart? needle (text ++ rest) = (dropStart? needle text).map (· ++ rest) := by
  induction needle generalizing text with
  | nil => simp [dropStart?]
  | cons wanted needle ih =>
      cases text with
      | nil => simp at long
      | cons first text =>
          by_cases same : wanted = first
          · simpa [dropStart?, same] using ih (by simpa using long)
          · simp [dropStart?, same]

/-- Where a text is found first that occurs somewhere does not depend on what follows it there. -/
theorem exists_cut?_append (needle text : List Char) :
    ∃ before after, ∀ rest, cut? needle (text ++ needle ++ rest) = some (before, after ++ rest) := by
  induction text with
  | nil =>
      refine ⟨[], [], ?_⟩
      intro rest
      have starts : dropStart? needle (needle ++ rest) = some rest := dropStart?_self_append rest
      cases needle with
      | nil => cases rest <;> rfl
      | cons wanted needle =>
          rw [List.cons_append] at starts
          simp [cut?, starts]
  | cons first text ih =>
      obtain ⟨before, after, found⟩ := ih
      have seen (rest : List Char) : dropStart? needle (first :: (text ++ needle ++ rest)) =
          (dropStart? needle (first :: (text ++ needle))).map (· ++ rest) := by
        have long : needle.length ≤ (first :: (text ++ needle)).length := by
          simp only [List.length_cons, List.length_append]
          omega
        exact dropStart?_append_of_length_le long
      cases starts : dropStart? needle (first :: (text ++ needle)) with
      | some behind =>
          refine ⟨[], behind, ?_⟩
          intro rest
          simp only [List.cons_append, cut?, seen, starts, Option.map_some]
      | none =>
          refine ⟨first :: before, after, ?_⟩
          intro rest
          simp only [List.cons_append, cut?, seen, starts, Option.map_none, found, Option.map_some]

theorem cut?_of_cut? (found : cut? needle (before ++ needle ++ rest) = some (before, rest))
    (other : List Char) : cut? needle (before ++ needle ++ other) = some (before, other) := by
  obtain ⟨front, behind, finds⟩ := exists_cut?_append needle before
  obtain ⟨rfl, same⟩ : before = front ∧ rest = behind ++ rest := by
    simpa using found.symm.trans (finds rest)
  have nothing : behind = [] := by simpa using same
  rw [finds, nothing, List.nil_append]

theorem of_mem_pieces (piece_mem : piece ∈ pieces separator text) :
    separator ∉ piece ∧ ∀ char ∈ piece, char ∈ text := by
  induction text generalizing piece with
  | nil =>
      obtain rfl : piece = [] := by simpa [pieces] using piece_mem
      simp
  | cons first text ih =>
      obtain ⟨next, others, below⟩ : ∃ next others, pieces separator text = next :: others :=
        exists_pieces
      by_cases same : first = separator
      · rw [pieces, if_pos same, List.mem_cons] at piece_mem
        rcases piece_mem with rfl | piece_mem
        · simp
        · exact ⟨(ih piece_mem).1, fun char char_mem => .tail _ ((ih piece_mem).2 char char_mem)⟩
      · simp only [pieces, if_neg same, below, List.mem_cons] at piece_mem
        rcases piece_mem with rfl | piece_mem
        · obtain ⟨absent, inside⟩ := @ih next (by simp [below])
          refine ⟨by simp [absent, Ne.symm same], ?_⟩
          intro char char_mem
          rcases List.mem_cons.mp char_mem with rfl | char_mem
          · exact List.mem_cons_self
          · exact .tail _ (inside char char_mem)
        · obtain ⟨absent, inside⟩ := @ih piece (by simp [below, piece_mem])
          exact ⟨absent, fun char char_mem => .tail _ (inside char char_mem)⟩

end Text

namespace Replica

variable {origin : List Char} {segments : List (List Char)} {id url : String}

/-- What stands in front of the segments of a path: nothing, or a scheme and a host. -/
inductive IsPathOrigin : List Char → Prop
  | absent : IsPathOrigin []
  | given {scheme host : List Char}
      (endsThere : ∀ rest, Text.cut? "://".toList (scheme ++ "://".toList ++ rest) =
        some (scheme, rest))
      (noSlash : '/' ∉ host) : IsPathOrigin (scheme ++ "://".toList ++ host)

theorem isPathOrigin_splitOrigin (text : List Char) : IsPathOrigin (splitOrigin text).1 := by
  rw [splitOrigin]
  cases found : Text.cut? "://".toList text with
  | none => exact .absent
  | some parts =>
      obtain ⟨scheme, rest⟩ := parts
      have split := Text.eq_append_of_cut? found
      exact .given (Text.cut?_of_cut? (split ▸ found)) (Text.not_mem_takeWhile_ne _)

/-- A path without an origin has no two slashes side by side, unless they end it. -/
theorem cut?_joinPath (noSlash : ∀ segment ∈ segments, '/' ∉ segment)
    (given : [] ∉ segments.dropLast) : Text.cut? "://".toList (joinPath [] segments) = none := by
  cases found : Text.cut? "://".toList (joinPath [] segments) with
  | none => rfl
  | some parts =>
      exfalso
      obtain ⟨before, rest⟩ := parts
      have divided : Text.pieces '/' (joinPath [] segments) = [] :: segments := by
        refine @Text.pieces_joinPath segments [] ?_
        simpa using noSlash
      have split : joinPath [] segments = (before ++ [':']) ++ '/' :: [] ++ '/' :: rest := by
        simpa using Text.eq_append_of_cut? found
      rw [split, Text.pieces_append, Text.pieces_append] at divided
      obtain ⟨first, others, front⟩ :
          ∃ first others, Text.pieces '/' (before ++ [':']) = first :: others :=
        Text.exists_pieces
      obtain ⟨next, later, back⟩ : ∃ next later, Text.pieces '/' rest = next :: later :=
        Text.exists_pieces
      -- the empty piece between the two slashes is a segment, and not the last one
      have segments_eq : segments = others ++ [] :: next :: later := by
        have whole : first :: (others ++ [] :: next :: later) = [] :: segments := by
          simpa [front, back, Text.pieces] using divided
        exact (List.cons.inj whole).2.symm
      apply given
      rw [segments_eq, List.dropLast_append_of_ne_nil (by simp)]
      simp

/-- The origin of a path ends where it did, and its segments are told apart again. -/
theorem exists_splitOrigin_joinPath (isOrigin : IsPathOrigin origin)
    (noSlash : ∀ segment ∈ segments, '/' ∉ segment) (given : [] ∉ segments.dropLast) :
    ∃ rest, splitOrigin (joinPath origin segments) = (origin, rest) ∧
      (Text.pieces '/' rest = segments ∨ Text.pieces '/' rest = [] :: segments) := by
  cases isOrigin with
  | absent =>
      refine ⟨joinPath [] segments, ?_, .inr ?_⟩
      · rw [splitOrigin, cut?_joinPath noSlash given]
      · refine @Text.pieces_joinPath segments [] ?_
        simpa using noSlash
  | @given scheme host endsThere hostWhole =>
      have characters : joinPath (scheme ++ "://".toList ++ host) segments =
          scheme ++ "://".toList ++ (host ++ joinPath [] segments) := by
        simp [joinPath]
      rw [characters]
      cases segments with
      | nil =>
          have hosted : host.takeWhile (· ≠ '/') = host := Text.takeWhile_of_not_mem hostWhole
          have behind : host.dropWhile (· ≠ '/') = [] := by
            rw [List.dropWhile_eq_nil_iff]
            intro char host_mem
            simpa using ne_of_mem_of_not_mem host_mem hostWhole
          refine ⟨[], ?_, .inr rfl⟩
          rw [splitOrigin, endsThere]
          simp only [joinPath, List.flatMap_nil, List.append_nil, hosted, behind, List.drop_nil]
      | cons first others =>
          have joined : joinPath [] (first :: others) = '/' :: (first ++ joinPath [] others) := by
            simp [joinPath]
          refine ⟨first ++ joinPath [] others, ?_, .inl (Text.pieces_joinPath noSlash)⟩
          rw [joined, splitOrigin_append (endsThere _) hostWhole]

/-- Where the text of a path leads when it is read as a URL. -/
theorem Location.ofUrl_joinPath (isOrigin : IsPathOrigin origin)
    (noQuery : '?' ∉ joinPath origin segments) (noSlash : ∀ segment ∈ segments, '/' ∉ segment)
    (given : [] ∉ segments.dropLast) :
    ofUrl (String.ofList (joinPath origin segments)) =
      ⟨String.ofList (joinPath origin (keptSegments segments)), castOf? segments⟩ := by
  obtain ⟨rest, split, divided⟩ := exists_splitOrigin_joinPath isOrigin noSlash given
  simp only [ofUrl, String.toList_ofList, Text.takeWhile_of_not_mem noQuery, split]
  rcases divided with same | behindEmpty
  · rw [same]
  · rw [behindEmpty]
    rfl

/-- A path as it comes out of a URL: an origin, and segments that stand for themselves. -/
structure IsCanonical (origin : List Char) (segments : List (List Char)) : Prop where
  isOrigin : IsPathOrigin origin
  noQuery : '?' ∉ origin
  stand : ∀ segment ∈ segments, IsSegment (String.ofList segment)

theorem mem_of_mem_splitOrigin (text : List Char) :
    (∀ char ∈ (splitOrigin text).1, char ∈ text) ∧ ∀ char ∈ (splitOrigin text).2, char ∈ text := by
  rw [splitOrigin]
  cases found : Text.cut? "://".toList text with
  | none => simp
  | some parts =>
      obtain ⟨scheme, rest⟩ := parts
      rw [Text.eq_append_of_cut? found]
      constructor
      · intro char char_mem
        rcases List.mem_append.mp char_mem with inScheme | inHost
        · exact List.mem_append_left _ inScheme
        · exact List.mem_append_right _ ((List.takeWhile_sublist _).subset inHost)
      · intro char char_mem
        apply List.mem_append_right
        exact (List.dropWhile_sublist _).subset ((List.drop_sublist _ _).subset char_mem)

/-- Every path that comes out of a URL is canonical. -/
theorem Location.exists_isCanonical (url : String) : ∃ origin segments,
    (ofUrl url).path = String.ofList (joinPath origin segments) ∧ IsCanonical origin segments := by
  let text : List Char := url.toList.takeWhile (· ≠ '?')
  have whole : '?' ∉ text := Text.not_mem_takeWhile_ne _
  obtain ⟨inOrigin, inRest⟩ := mem_of_mem_splitOrigin text
  refine ⟨(splitOrigin text).1, keptSegments (Text.pieces '/' (splitOrigin text).2), rfl,
    isPathOrigin_splitOrigin text, fun query => whole (inOrigin _ query), ?_⟩
  intro segment segment_mem
  simp only [keptSegments, List.mem_filter, Bool.and_eq_true, Bool.not_eq_true',
    List.isEmpty_eq_false_iff] at segment_mem
  obtain ⟨piece_mem, given, noCast⟩ := segment_mem
  obtain ⟨noSlash, inText⟩ := Text.of_mem_pieces piece_mem
  have noQuery : '?' ∉ segment := fun query => whole (inRest _ (inText _ query))
  refine ⟨?_, ?_, ?_, ?_⟩
  · simpa [← String.toList_inj] using given
  · simpa using noSlash
  · simpa using noQuery
  · simpa using noCast

theorem IsCanonical.not_mem (canonical : IsCanonical origin segments) :
    '?' ∉ joinPath origin segments := by
  simp only [joinPath, List.mem_append, List.mem_flatMap, not_or, not_exists, not_and]
  refine ⟨canonical.noQuery, ?_⟩
  intro segment segment_mem
  simpa using (canonical.stand segment segment_mem).noQuery

theorem IsCanonical.keptSegments_eq (canonical : IsCanonical origin segments) :
    keptSegments segments = segments := by
  rw [keptSegments, List.filter_eq_self]
  intro segment segment_mem
  have isSegment := canonical.stand segment segment_mem
  have given : segment ≠ [] := by simpa [← String.toList_inj] using isSegment.given
  simpa [given] using isSegment.noCast

theorem IsCanonical.noSlash (canonical : IsCanonical origin segments) :
    ∀ segment ∈ segments, '/' ∉ segment := by
  intro segment segment_mem
  simpa using (canonical.stand segment segment_mem).noSlash

theorem IsCanonical.nil_not_mem (canonical : IsCanonical origin segments) : [] ∉ segments :=
  fun empty_mem => (canonical.stand [] empty_mem).given rfl

/-- A text without a slash behind a path adds to the path what stands in front of its query. -/
theorem Location.path_ofUrl_below (url : String) (noSlash : '/' ∉ id.toList) :
    (ofUrl ((ofUrl url).path ++ "/" ++ id)).path =
      (ofUrl url).path ++ pathOf (id.toList.takeWhile (· ≠ '?')) := by
  let cut : List Char := id.toList.takeWhile (· ≠ '?')
  have cutNoSlash : '/' ∉ cut := Text.not_mem_takeWhile noSlash
  have cutNoQuery : '?' ∉ cut := Text.not_mem_takeWhile_ne _
  obtain ⟨origin, segments, path_eq, canonical⟩ := exists_isCanonical url
  have characters :
      joinPath origin segments ++ '/' :: cut = joinPath origin (segments ++ [cut]) := by
    simp [joinPath]
  have spelled : ((ofUrl url).path ++ "/" ++ id).toList =
      (joinPath origin segments ++ ['/']) ++ id.toList := by
    simp [path_eq]
  have inPath : ∀ char ∈ joinPath origin segments ++ ['/'], decide (char ≠ '?') = true := by
    intro char char_mem
    rcases List.mem_append.mp char_mem with inside | isSlash
    · simpa using ne_of_mem_of_not_mem inside canonical.not_mem
    · obtain rfl : char = '/' := by simpa using isSlash
      decide
  have noSlashes : ∀ segment ∈ segments ++ [cut], '/' ∉ segment := by
    intro segment segment_mem
    rcases List.mem_append.mp segment_mem with inside | isLast
    · exact canonical.noSlash segment inside
    · obtain rfl : segment = cut := by simpa using isLast
      exact cutNoSlash
  have given : [] ∉ (segments ++ [cut]).dropLast := by
    rw [List.dropLast_concat]
    exact canonical.nil_not_mem
  have noQuery : '?' ∉ joinPath origin (segments ++ [cut]) := by
    simpa [← characters, canonical.not_mem] using cutNoQuery
  calc
    (ofUrl ((ofUrl url).path ++ "/" ++ id)).path
      = (ofUrl (String.ofList (joinPath origin (segments ++ [cut])))).path := by
        rw [← String.ofList_toList (s := (ofUrl url).path ++ "/" ++ id), ← ofUrl_takeWhile, spelled,
          List.takeWhile_append_of_pos inPath, ← characters]
        simp [cut]
    _ = String.ofList (joinPath origin (segments ++ keptSegments [cut])) := by
        rw [ofUrl_joinPath canonical.isOrigin noQuery noSlashes given, keptSegments_append,
          canonical.keptSegments_eq]
    _ = (ofUrl url).path ++ pathOf cut := by
        rw [joinPath_append, String.ofList_append, ← path_eq, pathOf,
          Text.pieces_of_not_mem cutNoSlash]

/-- Behind a path, an id leads to itself if it is a segment. -/
theorem IsSegment.path_ofUrl_below (segment : IsSegment id) (url : String) :
    (Location.ofUrl ((Location.ofUrl url).path ++ "/" ++ id)).path =
      (Location.ofUrl url).path ++ "/" ++ id := by
  rw [Location.path_ofUrl_below url segment.noSlash,
    (pathOf_takeWhile_eq_iff segment.noSlash).mpr segment, String.append_assoc]

/-- An id without a slash that is no segment leads back to the path or to another one below it. -/
theorem Location.path_ofUrl_below_cases (url : String) (noSlash : '/' ∉ id.toList)
    (notSegment : ¬IsSegment id) :
    (ofUrl ((ofUrl url).path ++ "/" ++ id)).path = (ofUrl url).path ∨
      ∃ other, IsSegment other ∧ other ≠ id ∧
        (ofUrl ((ofUrl url).path ++ "/" ++ id)).path = (ofUrl url).path ++ "/" ++ other := by
  obtain ⟨cut, cut_eq⟩ : ∃ cut, id.toList.takeWhile (· ≠ '?') = cut := ⟨_, rfl⟩
  have cutNoSlash : '/' ∉ cut := cut_eq ▸ Text.not_mem_takeWhile noSlash
  have cutNoQuery : '?' ∉ cut := cut_eq ▸ Text.not_mem_takeWhile_ne _
  rw [path_ofUrl_below url noSlash, cut_eq, pathOf_of_not_mem cutNoSlash]
  split
  case isTrue => exact .inl String.append_empty
  case isFalse kept =>
    rw [not_or] at kept
    have segment : IsSegment (String.ofList cut) := by
      refine ⟨?_, ?_, ?_, ?_⟩
      · simpa [← String.toList_inj] using kept.1
      · simpa using cutNoSlash
      · simpa using cutNoQuery
      · simpa using kept.2
    refine .inr ⟨String.ofList cut, segment, ?_, (String.append_assoc ..).symm⟩
    rintro rfl
    exact notSegment segment

end Replica

end Provision
