import Mathlib.Data.List.TakeWhile
import Provision.Directory.Blueprint
import Provision.Proofs.Answers

/-!
# Where lists and their documents are

What is written behind a URL without a query adds its segments to the path,
wherever the scheme and the host of the URL end.  So a list that is narrowed to
one type stands at the path of the whole list, and a document of a list is found
below the list under its own segment.
-/

namespace Provision

namespace Text

variable {separator last wanted : Char} {needle text rest : List Char}

theorem exists_pieces : ∃ piece others, pieces separator text = piece :: others := by
  cases text with
  | nil => exact ⟨[], [], rfl⟩
  | cons first text =>
      by_cases same : first = separator
      · exact ⟨[], pieces separator text, by simp [pieces, same]⟩
      · cases below : pieces separator text with
        | nil => exact ⟨[first], [], by simp [pieces, same, below]⟩
        | cons piece others => exact ⟨first :: piece, others, by simp [pieces, same, below]⟩

theorem pieces_append :
    pieces separator (text ++ separator :: rest) =
      pieces separator text ++ pieces separator rest := by
  induction text with
  | nil => simp [pieces]
  | cons first text ih =>
      by_cases same : first = separator
      · simp [pieces, same, ih]
      · obtain ⟨piece, others, below⟩ : ∃ piece others, pieces separator text = piece :: others :=
          exists_pieces
        simp [pieces, same, ih, below]

theorem dropStart?_append (apart : last ∉ needle) :
    dropStart? needle (text ++ last :: rest) =
      (dropStart? needle (text ++ [last])).map (· ++ rest) := by
  induction needle generalizing text with
  | nil => simp [dropStart?]
  | cons wanted needle ih =>
      simp only [List.mem_cons, not_or] at apart
      cases text with
      | nil => simp [dropStart?, Ne.symm apart.1]
      | cons first text =>
          by_cases same : wanted = first
          · simp [dropStart?, same, ih apart.2]
          · simp [dropStart?, same]

/-- What is looked for does not reach over a character that does not occur in it. -/
theorem cut?_append (given : needle ≠ []) (apart : last ∉ needle)
    (absent : cut? needle rest = none) :
    cut? needle (text ++ last :: rest) =
      (cut? needle (text ++ [last])).map fun (before, after) => (before, after ++ rest) := by
  induction text with
  | nil =>
      cases needle with
      | nil => exact absurd rfl given
      | cons wanted needle =>
          simp only [List.mem_cons, not_or] at apart
          simp [cut?, dropStart?, Ne.symm apart.1, absent]
  | cons first text ih =>
      have extended : dropStart? needle (first :: text ++ last :: rest) =
          (dropStart? needle (first :: text ++ [last])).map (· ++ rest) :=
        dropStart?_append apart
      simp only [List.cons_append] at extended
      cases found : dropStart? needle (first :: (text ++ [last])) with
      | none => simp [cut?, extended, found, ih, Function.comp_def]
      | some after => simp [cut?, extended, found]

theorem pieces_of_not_mem (absent : separator ∉ text) : pieces separator text = [text] := by
  induction text with
  | nil => rfl
  | cons first text ih =>
      simp only [List.mem_cons, not_or] at absent
      simp [pieces, Ne.symm absent.1, ih absent.2]

theorem dropStart?_eq_none (wanted_mem : wanted ∈ needle) (absent : wanted ∉ text) :
    dropStart? needle text = none := by
  induction needle generalizing text with
  | nil => simp at wanted_mem
  | cons first needle ih =>
      cases text with
      | nil => rfl
      | cons found text =>
          simp only [List.mem_cons, not_or] at wanted_mem absent
          by_cases same : first = found
          · rcases wanted_mem with rfl | needle_mem
            · exact absurd same absent.1
            · simpa [dropStart?, same] using ih needle_mem absent.2
          · simp [dropStart?, same]

/-- What is looked for is not found where one of its characters is missing. -/
theorem cut?_eq_none (wanted_mem : wanted ∈ needle) (absent : wanted ∉ text) :
    cut? needle text = none := by
  induction text with
  | nil =>
      have notEmpty : needle.isEmpty = false := by
        simpa using List.ne_nil_of_mem wanted_mem
      simp [cut?, notEmpty]
  | cons first text ih =>
      have absentLater : wanted ∉ text := fun mem => absent (List.mem_cons_of_mem _ mem)
      simp [cut?, dropStart?_eq_none wanted_mem absent, ih absentLater]

theorem dropStart?_self_append (rest : List Char) : dropStart? text (text ++ rest) = some rest := by
  induction text with
  | nil => rfl
  | cons first text ih => simp [dropStart?, ih]

theorem takeWhile_of_not_mem (absent : wanted ∉ text) : text.takeWhile (· ≠ wanted) = text := by
  rw [List.takeWhile_eq_self_iff]
  intro char char_mem
  simpa using ne_of_mem_of_not_mem char_mem absent

/-- What stands in front of a character does not have it. -/
theorem not_mem_takeWhile_ne (text : List Char) : wanted ∉ text.takeWhile (· ≠ wanted) := by
  intro inCut
  simpa using List.mem_takeWhile_imp inCut

theorem not_mem_takeWhile {test : Char → Bool} (absent : wanted ∉ text) :
    wanted ∉ text.takeWhile test :=
  fun inCut => absent ((List.takeWhile_sublist _).subset inCut)

theorem not_mem_lastPiece {text : String} : separator ∉ (lastPiece separator text).toList := by
  intro mem
  simp only [lastPiece, String.toList_ofList, List.mem_reverse] at mem
  exact not_mem_takeWhile_ne _ mem

theorem lastPiece_append {before : List Char} (absent : separator ∉ text) :
    lastPiece separator (String.ofList (before ++ separator :: text)) = String.ofList text := by
  have whole : text.reverse.takeWhile (· ≠ separator) = text.reverse :=
    takeWhile_of_not_mem (by simpa using absent)
  simp only [lastPiece, String.toList_ofList, List.reverse_append, List.reverse_cons,
    List.append_assoc, List.singleton_append]
  rw [Replica.takeWhile_append_cons _ _ (by simp), whole, List.reverse_reverse]

theorem toNat_ofNat {code : Nat} (low : code < 0xD800) : (Char.ofNat code).toNat = code := by
  rw [Char.ofNat, dif_pos (.inl low)]
  rfl

/-- A character stays as it is in lower case unless it is one of the 26 capitals. -/
theorem lowerAscii_cases (char : Char) :
    lowerAscii char = char ∨
      65 ≤ char.toNat ∧ char.toNat ≤ 90 ∧ (lowerAscii char).toNat = char.toNat + 32 := by
  by_cases capital : 'A' ≤ char ∧ char ≤ 'Z'
  · right
    have low : 65 ≤ char.toNat := by simpa [Char.le_def, UInt32.le_iff_toNat_le] using capital.1
    have high : char.toNat ≤ 90 := by simpa [Char.le_def, UInt32.le_iff_toNat_le] using capital.2
    rw [lowerAscii, if_pos capital, toNat_ofNat (by omega)]
    exact ⟨low, high, rfl⟩
  · left
    simp [lowerAscii, capital]

theorem lowerAscii_lowerAscii (char : Char) : lowerAscii (lowerAscii char) = lowerAscii char := by
  rcases lowerAscii_cases char with same | ⟨low, high, moved⟩
  · rw [same, same]
  · rcases lowerAscii_cases (lowerAscii char) with same | ⟨-, stillCapital, -⟩
    · exact same
    · omega

theorem eq_dot_of_lowerAscii {char : Char} (isDot : lowerAscii char = '.') : char = '.' := by
  rcases lowerAscii_cases char with same | ⟨low, -, moved⟩
  · exact same.symm.trans isDot
  · have dot : '.'.toNat = 46 := rfl
    rw [isDot, dot] at moved
    omega

end Text

namespace Replica

variable {last : Char} {stem added narrowing : List Char}

theorem keptSegments_append (left right : List (List Char)) :
    keptSegments (left ++ right) = keptSegments left ++ keptSegments right := by
  simp [keptSegments]

theorem keptSegments_append_slash :
    keptSegments (Text.pieces '/' (((stem ++ '/' :: added).dropWhile (· ≠ '/')).drop 1)) =
      keptSegments (Text.pieces '/' ((stem.dropWhile (· ≠ '/')).drop 1)) ++
        keptSegments (Text.pieces '/' added) := by
  induction stem with
  | nil =>
      have empty : keptSegments (Text.pieces '/' []) = [] := by decide
      simp [empty]
  | cons first stem ih =>
      by_cases slash : first = '/'
      · simp [slash, Text.pieces_append, keptSegments_append]
      · simpa [slash] using ih

/-- A URL whose scheme ends in front of a host is divided at the first slash behind the host. -/
theorem splitOrigin_append {scheme host rest : List Char}
    (endsThere : Text.cut? "://".toList (scheme ++ "://".toList ++ (host ++ '/' :: rest)) =
      some (scheme, host ++ '/' :: rest)) (noSlash : '/' ∉ host) :
    splitOrigin (scheme ++ "://".toList ++ (host ++ '/' :: rest)) =
      (scheme ++ "://".toList ++ host, rest) := by
  have hosted : (host ++ '/' :: rest).takeWhile (· ≠ '/') = host := by
    rw [takeWhile_append_cons _ _ (by simp), Text.takeWhile_of_not_mem noSlash]
  have behind : ((host ++ '/' :: rest).dropWhile (· ≠ '/')).drop 1 = rest := by
    have inHost : ∀ char ∈ host, decide (char ≠ '/') = true := by
      intro char host_mem
      simpa using ne_of_mem_of_not_mem host_mem noSlash
    rw [List.dropWhile_append_of_pos inHost]
    simp
  rw [splitOrigin, endsThere]
  simp only [hosted, behind]

theorem joinPath_append (origin : List Char) (segments others : List (List Char)) :
    joinPath origin (segments ++ others) = joinPath origin segments ++ joinPath [] others := by
  simp [joinPath]

/-- What is written behind a URL without a query adds its segments to the path. -/
theorem Location.path_ofUrl_append (lastApart : last ∉ "://".toList)
    (noQuery : '?' ∉ stem ++ [last]) (whole : '?' ∉ added)
    (noOrigin : Text.cut? "://".toList ('/' :: added) = none) :
    (Location.ofUrl (String.ofList (stem ++ last :: '/' :: added))).path =
      (Location.ofUrl (String.ofList (stem ++ [last]))).path ++
        String.ofList (joinPath [] (keptSegments (Text.pieces '/' added))) := by
  have split : stem ++ last :: '/' :: added = (stem ++ [last]) ++ '/' :: added := by simp
  have longWhole : '?' ∉ stem ++ last :: '/' :: added := by
    rw [split, List.mem_append, not_or]
    exact ⟨noQuery, by simpa using whole⟩
  simp only [ofUrl, String.toList_ofList, Text.takeWhile_of_not_mem longWhole,
    Text.takeWhile_of_not_mem noQuery, splitOrigin, ← String.ofList_append]
  rw [Text.cut?_append (by decide) lastApart noOrigin]
  cases origin : Text.cut? "://".toList (stem ++ [last]) with
  | none =>
      simp only [Option.map_none, split, Text.pieces_append, keptSegments_append, joinPath_append]
  | some found =>
      rcases found with ⟨scheme, rest⟩
      have host : (rest ++ '/' :: added).takeWhile (· ≠ '/') = rest.takeWhile (· ≠ '/') :=
        takeWhile_append_cons _ _ (by simp)
      simp only [Option.map_some, host, keptSegments_append_slash, joinPath_append]

/-- What is written behind the query of a URL does not change where it points. -/
theorem Location.ofUrl_append_of_query {text : List Char} (query : '?' ∈ text) :
    Location.ofUrl (String.ofList (text ++ added)) = Location.ofUrl (String.ofList text) := by
  rcases List.append_of_mem query with ⟨before, after, rfl⟩
  have same : (before ++ '?' :: after ++ added).takeWhile (· ≠ '?') =
      (before ++ '?' :: after).takeWhile (· ≠ '?') := by
    rw [List.append_assoc, List.cons_append, takeWhile_append_cons _ _ (by simp),
      takeWhile_append_cons _ _ (by simp)]
  simp only [ofUrl, String.toList_ofList, same]

/-- Narrowing a list to a type does not change its path. -/
theorem Location.path_ofUrl_narrowed (lastApart : last ∉ "://".toList) (notQuery : last ≠ '?')
    (whole : '?' ∉ narrowing) (noOrigin : Text.cut? "://".toList ('/' :: narrowing) = none)
    (isType : keptSegments (Text.pieces '/' narrowing) = []) :
    (Location.ofUrl (String.ofList (stem ++ last :: '/' :: narrowing))).path =
      (Location.ofUrl (String.ofList (stem ++ [last]))).path := by
  by_cases query : '?' ∈ stem
  · have split : stem ++ last :: '/' :: narrowing = (stem ++ [last]) ++ '/' :: narrowing := by simp
    rw [split, ofUrl_append_of_query (by simp [query])]
  · have noQuery : '?' ∉ stem ++ [last] := by simp [query, notQuery.symm]
    rw [path_ofUrl_append lastApart noQuery whole noOrigin, isType]
    simp [joinPath]

variable {url path text cast : String}

/-- A text that stands for itself as a segment of a path. -/
structure IsSegment (text : String) : Prop where
  given : text ≠ ""
  noSlash : '/' ∉ text.toList
  noQuery : '?' ∉ text.toList
  noCast : isCast text.toList = false

/-- The name of a type is written behind a dot. -/
theorem isCast_eq_false {segment : List Char} (noDot : '.' ∉ segment) : isCast segment = false := by
  have noDotLowered : '.' ∉ segment.map Text.lowerAscii := by
    intro dot_mem
    obtain ⟨char, char_mem, isDot⟩ := List.mem_map.mp dot_mem
    exact noDot (Text.eq_dot_of_lowerAscii isDot ▸ char_mem)
  have graph : Text.dropStart? "graph.".toList (segment.map Text.lowerAscii) = none :=
    Text.dropStart?_eq_none (by decide : '.' ∈ "graph.".toList) noDotLowered
  have microsoft : Text.dropStart? "microsoft.graph.".toList (segment.map Text.lowerAscii) = none :=
    Text.dropStart?_eq_none (by decide : '.' ∈ "microsoft.graph.".toList) noDotLowered
  rw [isCast, graph, microsoft]
  rfl

theorem IsSegment.keptSegments_eq (segment : IsSegment text) :
    keptSegments (Text.pieces '/' text.toList) = [text.toList] := by
  have given : text.toList ≠ [] := by simpa using segment.given
  simp [Text.pieces_of_not_mem segment.noSlash, keptSegments, given, segment.noCast]

/-- A segment behind the URL of a list leads to the path of one of its documents. -/
theorem Location.path_ofUrl_segment (segment : IsSegment text) (lastApart : last ∉ "://".toList)
    (noQuery : '?' ∉ stem ++ [last]) (url_eq : url = String.ofList (stem ++ [last])) :
    (Location.ofUrl (url ++ "/" ++ text)).path = (Location.ofUrl url).path ++ "/" ++ text := by
  have long : url ++ "/" ++ text = String.ofList (stem ++ last :: '/' :: text.toList) := by
    simp [url_eq, ← String.toList_inj]
  have noOrigin : Text.cut? "://".toList ('/' :: text.toList) = none := by
    apply Option.map_eq_none_iff.mpr
    exact Text.cut?_eq_none (by decide : '/' ∈ "://".toList) segment.noSlash
  rw [long, path_ofUrl_append lastApart noQuery segment.noQuery noOrigin, segment.keptSegments_eq,
    ← url_eq]
  simp [joinPath, ← String.toList_inj]

theorem isChild_segment (segment : IsSegment text) (path : String) :
    isChild path (path ++ "/" ++ text) = true := by
  have given : text.toList ≠ [] := by simpa using segment.given
  have below : (path ++ "/" ++ text).toList = path.toList ++ '/' :: text.toList := by simp
  simp [isChild, below, Text.dropStart?_self_append, Text.dropStart?, given, segment.noSlash]

theorem Location.cast_ofUrl (narrowed : (Location.ofUrl url).cast = some cast) :
    '.' ∉ cast.toList := by
  simp only [ofUrl, castOf?, Option.map_eq_some_iff] at narrowed
  rcases narrowed with ⟨segment, -, rfl⟩
  exact Text.not_mem_lastPiece

/-- The type that documents are marked with is the one that the list is narrowed to. -/
theorem sameIgnoringCase_typeName (plain : '.' ∉ cast.toList) :
    Text.sameIgnoringCase (Text.lastPiece '.' (typeName cast)) cast = true := by
  cases letters : cast.toList with
  | nil =>
      have empty : typeName cast = "#microsoft.graph." := by
        unfold typeName
        rw [letters]
        exact String.append_empty
      have nothing : Text.lastPiece '.' "#microsoft.graph." = "" := by decide
      simp [empty, nothing, Text.sameIgnoringCase, letters]
  | cons first rest =>
      rw [letters, List.mem_cons, not_or] at plain
      have lowered : '.' ∉ Text.lowerAscii first :: rest := by
        rw [List.mem_cons, not_or]
        exact ⟨fun isDot => plain.1 (Text.eq_dot_of_lowerAscii isDot.symm).symm, plain.2⟩
      have spelled : typeName cast = String.ofList
          ("#microsoft.graph".toList ++ '.' :: Text.lowerAscii first :: rest) := by
        unfold typeName
        simp [letters, ← String.toList_inj]
      rw [spelled, Text.lastPiece_append lowered]
      simp [Text.sameIgnoringCase, letters, Text.lowerAscii_lowerAscii]

end Replica

namespace Directory

open Replica (Location)

theorem url_of_relative (directory : Directory) {first : Char} {path : List Char}
    (relative : first ≠ '/') :
    directory.url (String.ofList (first :: path)) =
      String.ofList (directory.base.toList ++ '/' :: first :: path) := by
  simp [url, Text.dropLeading, relative, ← String.toList_inj]

/-- A list is where it would be without the type that it is narrowed to. -/
theorem path_ofUrl_narrowed (directory : Directory) {first : Char} {list narrowing : List Char}
    (relative : first ≠ '/') (whole : '?' ∉ narrowing)
    (noOrigin : Text.cut? "://".toList ('/' :: narrowing) = none)
    (isType : Replica.keptSegments (Text.pieces '/' narrowing) = []) :
    (Location.ofUrl (directory.url
        (String.ofList (first :: (list ++ 's' :: '/' :: narrowing))))).path =
      (Location.ofUrl (directory.url (String.ofList (first :: (list ++ ['s']))))).path := by
  let stem : List Char := directory.base.toList ++ '/' :: first :: list
  have narrowed : directory.base.toList ++ '/' :: first :: (list ++ 's' :: '/' :: narrowing) =
      stem ++ 's' :: '/' :: narrowing := by simp [stem]
  have wholeList : directory.base.toList ++ '/' :: first :: (list ++ ['s']) = stem ++ ['s'] := by
    simp [stem]
  rw [url_of_relative directory relative, url_of_relative directory relative, narrowed, wholeList]
  exact Location.path_ofUrl_narrowed (by decide) (by decide) whole noOrigin isType

/-- A new blueprint stands among the applications. -/
theorem path_ofUrl_blueprints (directory : Directory) :
    (Location.ofUrl (directory.url blueprintsPath)).path =
      (Location.ofUrl (directory.url "applications")).path :=
  @path_ofUrl_narrowed directory 'a' "pplication".toList "graph.agentIdentityBlueprint".toList
    (by decide) (by decide) (by decide) (by decide)

/-- The principal of a blueprint stands among the service principals. -/
theorem path_ofUrl_blueprintPrincipals (directory : Directory) :
    (Location.ofUrl (directory.url blueprintPrincipalsPath)).path =
      (Location.ofUrl (directory.url "servicePrincipals")).path :=
  @path_ofUrl_narrowed directory 's' "ervicePrincipal".toList
    "graph.agentIdentityBlueprintPrincipal".toList (by decide) (by decide) (by decide) (by decide)

end Directory

end Provision
