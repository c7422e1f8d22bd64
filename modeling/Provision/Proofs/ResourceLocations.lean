import Provision.Proofs.Locations
import Provision.ResourceManager.ManagedIdentity
import Provision.ResourceManager.RoleAssignment

/-!
# Paths that mean the same to everyone who reads them

A resource is addressed by its resource id, which stands behind the base of a URL.  The replica
cuts the URL into segments of its own, and reads it as browsers do to tell the resource id from the
path again.  Both leave a path alone whose segments are made of letters, digits, hyphens,
underscores and dots, and are neither dots alone nor the name of a type.
-/

namespace Provision

/-- Whether a character stands for itself wherever a path is read. -/
def Url.isPlain (char : Char) : Bool := ManagedIdentity.isNameChar char || char = '.'

namespace Url

variable {char : Char} {text : List Char}

theorem isAlpha_cases (alpha : char.isAlpha = true) :
    (65 ≤ char.toNat ∧ char.toNat ≤ 90) ∨ (97 ≤ char.toNat ∧ char.toNat ≤ 122) := by
  have cases : (decide ('A'.val ≤ char.val ∧ char.val ≤ 'Z'.val) ||
      (decide ('a'.val ≤ char.val) && decide (char.val ≤ 'z'.val))) = true := alpha
  simp only [Bool.or_eq_true, Bool.and_eq_true, decide_eq_true_eq, UInt32.le_iff_toNat_le] at cases
  exact cases

theorem exists_index_of_isPlain (plain : isPlain char = true) :
    ∃ index : Fin 128, char = Char.ofNat index := by
  have low : char.toNat < 128 := by
    simp only [isPlain, ManagedIdentity.isNameChar, Char.isAlphanum, Char.isDigit,
      Bool.or_eq_true, Bool.and_eq_true, decide_eq_true_eq, ge_iff_le,
      UInt32.le_iff_toNat_le] at plain
    rcases plain with (((alpha | digit) | rfl) | rfl) | rfl
    · rcases isAlpha_cases alpha with upper | lower
      · exact upper.2.trans_lt (by decide)
      · exact lower.2.trans_lt (by decide)
    · exact digit.2.trans_lt (by decide)
    all_goals decide
  exact ⟨⟨char.toNat, low⟩, (Char.ofNat_toNat char).symm⟩

/-- The characters that mean something in a URL or are encoded in a path. -/
def marks : List Char := pathReserved ++ [':', '/', '\\', '@', '%', '[', ']', '^', '|']

theorem apart_of_isPlain (plain : isPlain char = true) :
    isControl char = false ∧ char ∉ marks ∧ Text.isBlank char = false ∧ 0x20 < char.toNat := by
  obtain ⟨index, rfl⟩ := exists_index_of_isPlain plain
  revert plain index
  decide +kernel

theorem not_mem_of_isPlain (plain : ∀ char ∈ text, isPlain char = true) (isMark : char ∈ marks) :
    char ∉ text := by
  intro text_mem
  exact (apart_of_isPlain (plain char text_mem)).2.1 isMark

theorem percentEncode_of_isPlain (plain : ∀ char ∈ text, isPlain char = true) :
    percentEncode pathReserved text = text := by
  induction text with
  | nil => rfl
  | cons first text ih =>
      rw [List.forall_mem_cons] at plain
      obtain ⟨notControl, notMark, -⟩ := apart_of_isPlain plain.1
      have notReserved : first ∉ pathReserved :=
        fun reserved => notMark (List.mem_append_left _ reserved)
      simpa [percentEncode, notControl, notReserved] using ih plain.2

end Url

/-- A segment that every reading of a path leaves as it is. -/
structure IsPlainSegment (segment : List Char) : Prop where
  named : ∃ char ∈ segment, ManagedIdentity.isNameChar char = true
  plain : ∀ char ∈ segment, Url.isPlain char = true
  noCast : Replica.isCast segment = false

instance (segment : List Char) : Decidable (IsPlainSegment segment) :=
  decidable_of_iff
    (segment.any ManagedIdentity.isNameChar = true ∧ segment.all Url.isPlain = true ∧
      Replica.isCast segment = false)
    ⟨fun ⟨named, plain, noCast⟩ =>
        ⟨List.any_eq_true.mp named, List.all_eq_true.mp plain, noCast⟩,
      fun ⟨named, plain, noCast⟩ =>
        ⟨List.any_eq_true.mpr named, List.all_eq_true.mpr plain, noCast⟩⟩

/-- A name that is made of letters, digits, hyphens and underscores. -/
structure IsPlainName (name : String) : Prop where
  given : name ≠ ""
  plain : ∀ char ∈ name.toList, ManagedIdentity.isNameChar char = true

instance (name : String) : Decidable (IsPlainName name) :=
  decidable_of_iff (name ≠ "" ∧ name.toList.all ManagedIdentity.isNameChar = true)
    ⟨fun ⟨given, plain⟩ => ⟨given, List.all_eq_true.mp plain⟩,
      fun ⟨given, plain⟩ => ⟨given, List.all_eq_true.mpr plain⟩⟩

/-- A path of plain segments, behind its first slash. -/
def IsPlainPath (path : String) : Prop :=
  ∃ first others, path.toList = Replica.joinPath [] (first :: others) ∧
    ∀ segment ∈ first :: others, IsPlainSegment segment

section Segments

variable {segment : List Char} {segments : List (List Char)} {name path : String}

theorem IsPlainName.isPlainSegment (plainName : IsPlainName name) :
    IsPlainSegment name.toList := by
  obtain ⟨first, name_mem⟩ : ∃ first, first ∈ name.toList := by
    apply List.exists_mem_of_ne_nil
    simpa using plainName.given
  have noDot : '.' ∉ name.toList :=
    fun dot_mem => absurd (plainName.plain '.' dot_mem) (by decide)
  refine ⟨⟨first, name_mem, plainName.plain first name_mem⟩, ?_, Replica.isCast_eq_false noDot⟩
  intro char char_mem
  simp [Url.isPlain, plainName.plain char char_mem]

namespace IsPlainSegment

theorem ne_nil (plain : IsPlainSegment segment) : segment ≠ [] := by
  obtain ⟨char, char_mem, -⟩ := plain.named
  exact List.ne_nil_of_mem char_mem

theorem not_mem (plain : IsPlainSegment segment) {char : Char} (isMark : char ∈ Url.marks) :
    char ∉ segment :=
  Url.not_mem_of_isPlain plain.plain isMark

/-- A segment with a character other than a dot is no dot segment. -/
theorem not_dots (plain : IsPlainSegment segment) :
    Url.isDoubleDot segment = false ∧ Url.isDot segment = false := by
  obtain ⟨char, char_mem, named⟩ := plain.named
  have lowered_mem : Text.lowerAscii char ∈ segment.map Text.lowerAscii :=
    List.mem_map_of_mem char_mem
  have notDot : Text.lowerAscii char ≠ '.' := by
    intro isDot
    rw [Text.eq_dot_of_lowerAscii isDot] at named
    exact absurd named (by decide)
  have noPercent : '%' ∉ segment.map Text.lowerAscii := by
    intro percent_mem
    obtain ⟨mark, mark_mem, isPercent⟩ := List.mem_map.mp percent_mem
    obtain ⟨index, rfl⟩ := Url.exists_index_of_isPlain (plain.plain mark mark_mem)
    have notPlain : Url.isPlain (Char.ofNat index) = false := by
      clear mark_mem
      revert isPercent index
      decide +kernel
    simp [plain.plain _ mark_mem] at notPlain
  constructor
  · simp only [Url.isDoubleDot, Bool.or_eq_false_iff, decide_eq_false_iff_not]
    refine ⟨⟨⟨?_, ?_⟩, ?_⟩, ?_⟩
    · intro same
      simp only [same] at lowered_mem
      simp [notDot] at lowered_mem
    all_goals
      intro same
      simp [same] at noPercent
  · simp only [Url.isDot, Bool.or_eq_false_iff, decide_eq_false_iff_not]
    constructor
    · intro same
      simp [same, notDot] at lowered_mem
    · intro same
      simp [same] at noPercent

end IsPlainSegment

/-- Nothing is resolved in plain segments. -/
theorem Url.resolveDots_of_isPlain (kept : List (List Char))
    (plain : ∀ segment ∈ segments, IsPlainSegment segment) :
    resolveDots kept segments = kept.reverse ++ segments := by
  induction segments generalizing kept with
  | nil => simp [resolveDots]
  | cons segment segments ih =>
      rw [List.forall_mem_cons] at plain
      obtain ⟨notDouble, notSingle⟩ := plain.1.not_dots
      simp [resolveDots, notDouble, notSingle, ih (segment :: kept) plain.2]

theorem Text.pieces_joinPath {first : List Char}
    (noSlash : ∀ segment ∈ first :: segments, '/' ∉ segment) :
    pieces '/' (first ++ Replica.joinPath [] segments) = first :: segments := by
  induction segments generalizing first with
  | nil => simp [Replica.joinPath, pieces_of_not_mem (noSlash first (by simp))]
  | cons next segments ih =>
      rw [List.forall_mem_cons] at noSlash
      have joined : Replica.joinPath [] (next :: segments) =
          '/' :: (next ++ Replica.joinPath [] segments) := by
        simp [Replica.joinPath]
      rw [joined, pieces_append, pieces_of_not_mem noSlash.1, ih noSlash.2]
      rfl

theorem Replica.cons_intercalate (first : List Char) (others : List (List Char)) :
    '/' :: List.intercalate ['/'] (first :: others) = joinPath [] (first :: others) := by
  induction others generalizing first with
  | nil => simp [joinPath]
  | cons next others ih =>
      have rest := ih next
      simp only [joinPath, List.nil_append, List.flatMap_cons] at rest ⊢
      rw [← rest]
      simp

namespace Url

/-- The characters of a path are its slashes and those of its segments. -/
theorem forall_mem_joinPath {segments : List (List Char)} {holds : Char → Prop}
    (plain : ∀ segment ∈ segments, IsPlainSegment segment) (ofSlash : holds '/')
    (ofPlain : ∀ char, isPlain char = true → holds char) :
    ∀ char ∈ Replica.joinPath [] segments, holds char := by
  intro char char_mem
  simp only [Replica.joinPath, List.nil_append, List.mem_flatMap] at char_mem
  obtain ⟨segment, segment_mem, inside⟩ := char_mem
  rcases List.mem_cons.mp inside with rfl | inside
  · exact ofSlash
  · exact ofPlain char ((plain segment segment_mem).plain char inside)

theorem not_mem_joinPath {segments : List (List Char)}
    (plain : ∀ segment ∈ segments, IsPlainSegment segment) {mark : Char} (isMark : mark ∈ marks)
    (notSlash : mark ≠ '/') : mark ∉ Replica.joinPath [] segments := by
  have apart : ∀ char ∈ Replica.joinPath [] segments, char ≠ mark := by
    refine forall_mem_joinPath plain (Ne.symm notSlash) ?_
    rintro char isPlain rfl
    exact (apart_of_isPlain isPlain).2.1 isMark
  exact fun mark_mem => apart mark mark_mem rfl

theorem visible_joinPath {segments : List (List Char)}
    (plain : ∀ segment ∈ segments, IsPlainSegment segment) :
    ∀ char ∈ Replica.joinPath [] segments, 0x20 < char.toNat :=
  forall_mem_joinPath plain (by decide) fun _ isPlain => (apart_of_isPlain isPlain).2.2.2

theorem normalPath_of_isPlain {special : Bool} {first : List Char} {others : List (List Char)}
    (plain : ∀ segment ∈ first :: others, IsPlainSegment segment) :
    normalPath special (first ++ Replica.joinPath [] others) =
      String.ofList (Replica.joinPath [] (first :: others)) := by
  have noBackslash : '\\' ∉ first ++ Replica.joinPath [] others := by
    have absent := not_mem_joinPath plain (by decide) (by decide : '\\' ≠ '/')
    simpa [Replica.joinPath] using absent
  have same : (first ++ Replica.joinPath [] others).map
      (fun char => if char = '\\' then '/' else char) = first ++ Replica.joinPath [] others := by
    rw [List.map_congr_left (g := id), List.map_id]
    intro char char_mem
    simp [ne_of_mem_of_not_mem char_mem noBackslash]
  have noSlash : ∀ segment ∈ first :: others, '/' ∉ segment :=
    fun segment segment_mem => (plain segment segment_mem).not_mem (by decide)
  have read : segments special (first ++ Replica.joinPath [] others) = first :: others := by
    cases special with
    | false => exact Text.pieces_joinPath noSlash
    | true =>
        rw [segments, if_pos rfl, same]
        exact Text.pieces_joinPath noSlash
  have encoded : (first :: others).map (percentEncode pathReserved) = first :: others := by
    rw [List.map_congr_left (g := id), List.map_id]
    intro segment segment_mem
    exact percentEncode_of_isPlain (plain segment segment_mem).plain
  rw [normalPath, read, encoded, resolveDots_of_isPlain [] plain, List.reverse_nil,
    List.nil_append, Replica.cons_intercalate]

variable {scheme host path : List Char}

theorem takeHost_suffix (inBrackets : Bool) (text : List Char) :
    (takeHost inBrackets text).2 <:+ text := by
  induction text generalizing inBrackets with
  | nil => exact List.suffix_refl _
  | cons char rest ih =>
      simp only [takeHost]
      split
      · exact List.suffix_refl _
      · exact (ih _).trans (List.suffix_cons char rest)

/-- A host ends where the slash behind it begins a path. -/
theorem takeAuthority_append (special : Bool) (path : List Char)
    (whole : ∀ char ∈ host, endsAuthority true char = false) :
    (host ++ '/' :: path).takeWhile (fun char => !endsAuthority special char) = host ∧
      (host ++ '/' :: path).dropWhile (fun char => !endsAuthority special char) = '/' :: path := by
  have inHost : ∀ char ∈ host, (!endsAuthority special char) = true := by
    intro char host_mem
    have apart := whole char host_mem
    cases special <;> simp_all [endsAuthority]
  have stops : (!endsAuthority special '/') = false := rfl
  rw [List.takeWhile_append_of_pos inHost, List.dropWhile_append_of_pos inHost]
  simp [stops]

theorem splitQuery_path (noQuery : '?' ∉ path) (noFragment : '#' ∉ path) :
    splitQuery ('/' :: path) = ('/' :: path, none) := by
  have wholeText : ('/' :: path).takeWhile (· ≠ '#') = '/' :: path :=
    Text.takeWhile_of_not_mem (by simpa using noFragment)
  have noneLeft : ('/' :: path).dropWhile (· ≠ '?') = [] := by
    rw [List.dropWhile_eq_nil_iff]
    intro char char_mem
    simpa using ne_of_mem_of_not_mem char_mem (by simpa using noQuery)
  simp only [splitQuery, wholeText, noneLeft]

/-- No backslash stands in the port behind a host. -/
theorem port_of_whole (whole : ∀ char ∈ host, endsAuthority true char = false) :
    ((takeHost false (host.reverse.takeWhile (· ≠ '@')).reverse).2.drop 1).dropWhile
      (· ≠ '\\') = [] := by
  rw [List.dropWhile_eq_nil_iff]
  intro char char_mem
  have host_mem : char ∈ host := by
    have port_mem := (takeHost_suffix _ _).mem (List.mem_of_mem_drop char_mem)
    rw [List.mem_reverse] at port_mem
    exact List.mem_reverse.mp ((List.takeWhile_prefix _).mem port_mem)
  have apart := whole char host_mem
  simp_all [endsAuthority]

/-- What a URL says of its scheme and host is read before its path, whatever the path is. -/
theorem withAuthority_append_path {name : String} {special : Bool}
    (whole : ∀ char ∈ host, endsAuthority true char = false)
    (noQuery : '?' ∉ path) (noFragment : '#' ∉ path) :
    withAuthority name special (host ++ '/' :: path) =
      (withAuthority name special (host ++ ['/'])).map fun url =>
        { url with path := normalPath special path, query := none } := by
  have authority (path : List Char) := takeAuthority_append special path whole
  have query := splitQuery_path noQuery noFragment
  have noPath : splitQuery ['/'] = (['/'], none) := rfl
  generalize parts_eq : takeHost false (host.reverse.takeWhile (· ≠ '@')).reverse = parts
  have onlyPort : (parts.2.drop 1).dropWhile (· ≠ '\\') = [] := parts_eq ▸ port_of_whole whole
  -- both texts run through the same checks, up to the path of what is returned
  cases special with
  | false =>
      simp only [withAuthority, authority, parts_eq, onlyPort, query, noPath, throw, throwThe,
        MonadExceptOf.throw, bind, Except.bind, pure, Except.pure, Bool.false_eq_true, false_and,
        if_false, List.isEmpty_cons, List.nil_append]
      repeat' split
      all_goals rfl
  | true =>
      simp only [withAuthority, authority, parts_eq, query, noPath, throw, throwThe,
        MonadExceptOf.throw, bind, Except.bind, pure, Except.pure, true_and, if_true,
        List.isEmpty_cons]
      repeat' split
      all_goals rfl

theorem clean_of_visible {text : List Char} (visible : ∀ char ∈ text, 0x20 < char.toNat) :
    clean text = text := by
  have noneDropped (text : List Char) (visible : ∀ char ∈ text, 0x20 < char.toNat) :
      text.dropWhile (fun char => decide (char.toNat ≤ 0x20)) = text := by
    cases text with
    | nil => rfl
    | cons first rest =>
        have seen := visible first (by simp)
        rw [List.dropWhile_cons_of_neg (by simpa using seen)]
  have noneFiltered :
      text.filter (fun char => decide (char ≠ '\t' ∧ char ≠ '\n' ∧ char ≠ '\r')) = text := by
    rw [List.filter_eq_self]
    intro char char_mem
    have seen := visible char char_mem
    simp only [ne_eq, decide_eq_true_eq]
    refine ⟨?_, ?_, ?_⟩ <;> rintro rfl <;> exact absurd seen (by decide)
  simp only [clean, noneDropped text visible]
  rw [noneDropped text.reverse (by simpa using visible), List.reverse_reverse, noneFiltered]

/-- A scheme of letters is found before its colon. -/
theorem scheme?_of_letters {rest : List Char} (given : scheme ≠ [])
    (letters : ∀ char ∈ scheme, char.isAlpha = true) :
    scheme? (scheme ++ ':' :: rest) =
      some (String.ofList (scheme.map Text.lowerAscii), rest) := by
  have isLetter (char : Char) (alpha : char.isAlpha = true) :
      (('a' ≤ char && char ≤ 'z') || ('A' ≤ char && char ≤ 'Z')) = true := by
    simp only [Char.le_def, UInt32.le_iff_toNat_le, Bool.or_eq_true, Bool.and_eq_true,
      decide_eq_true_eq]
    exact (isAlpha_cases alpha).symm
  have inScheme : ∀ char ∈ scheme, ((('a' ≤ char && char ≤ 'z') || ('A' ≤ char && char ≤ 'Z')) ||
      ('0' ≤ char && char ≤ '9') || char = '+' || char = '-' || char = '.') = true := by
    intro char scheme_mem
    rw [isLetter char (letters char scheme_mem)]
    rfl
  cases scheme with
  | nil => exact absurd rfl given
  | cons first others =>
      have firstLetter := isLetter first (letters first (by simp))
      simp only [scheme?, List.cons_append, firstLetter, if_true]
      rw [← List.cons_append, List.dropWhile_append_of_pos inScheme,
        List.takeWhile_append_of_pos inScheme, List.dropWhile_cons_of_neg (by decide),
        List.takeWhile_cons_of_neg (by decide), List.append_nil]
      rfl

/-- A scheme and a host that a URL begins with. -/
structure IsOriginOf (scheme host : List Char) : Prop where
  given : scheme ≠ []
  letters : ∀ char ∈ scheme, char.isAlpha = true
  notFile : scheme.map Text.lowerAscii ≠ "file".toList
  hosted : host ≠ []
  visible : ∀ char ∈ host, 0x20 < char.toNat
  whole : ∀ char ∈ host, endsAuthority true char = false

instance (scheme host : List Char) : Decidable (IsOriginOf scheme host) :=
  decidable_of_iff
    ((scheme ≠ [] ∧ scheme.all Char.isAlpha = true ∧
        scheme.map Text.lowerAscii ≠ "file".toList) ∧
      host ≠ [] ∧ host.all (fun char => 0x20 < char.toNat && !endsAuthority true char) = true) <| by
    simp only [List.all_eq_true, Bool.and_eq_true, decide_eq_true_eq, Bool.not_eq_true']
    exact ⟨fun ⟨⟨given, letters, notFile⟩, hosted, read⟩ => ⟨given, letters, notFile, hosted,
        fun char host_mem => (read char host_mem).1, fun char host_mem => (read char host_mem).2⟩,
      fun origin => ⟨⟨origin.given, origin.letters, origin.notFile⟩, origin.hosted,
        fun char host_mem => ⟨origin.visible char host_mem, origin.whole char host_mem⟩⟩⟩

theorem IsOriginOf.visible_append (origin : IsOriginOf scheme host)
    (visible : ∀ char ∈ path, 0x20 < char.toNat) :
    ∀ char ∈ scheme ++ ':' :: '/' :: '/' :: (host ++ '/' :: path), 0x20 < char.toNat := by
  simp only [List.forall_mem_append, List.forall_mem_cons]
  refine ⟨?_, by decide, by decide, by decide, origin.visible, by decide, visible⟩
  intro char scheme_mem
  rcases isAlpha_cases (origin.letters char scheme_mem) with upper | lower
  · exact (by decide : 0x20 < 65).trans_le upper.1
  · exact (by decide : 0x20 < 97).trans_le lower.1

/-- After the scheme comes what the host begins. -/
theorem parse_origin (origin : IsOriginOf scheme host)
    (visible : ∀ char ∈ path, 0x20 < char.toNat) :
    parse (String.ofList (scheme ++ "://".toList ++ host ++ '/' :: path)) =
      withAuthority (String.ofList (scheme.map Text.lowerAscii))
        (SchemeKind.of (String.ofList (scheme.map Text.lowerAscii)) = .special)
        (host ++ '/' :: path) := by
  have text_eq : scheme ++ "://".toList ++ host ++ '/' :: path =
      scheme ++ ':' :: '/' :: '/' :: (host ++ '/' :: path) := by simp
  have seen := origin.visible_append visible
  have notFile : SchemeKind.of (String.ofList (scheme.map Text.lowerAscii)) ≠ .file := by
    have differs : String.ofList (scheme.map Text.lowerAscii) ≠ "file" := by
      intro same
      apply origin.notFile
      rw [← same, String.toList_ofList]
    rw [SchemeKind.of, if_neg differs]
    split <;> simp
  rw [parse, String.toList_ofList, text_eq, clean_of_visible seen,
    scheme?_of_letters origin.given origin.letters]
  cases kind : SchemeKind.of (String.ofList (scheme.map Text.lowerAscii)) with
  | file => exact absurd kind notFile
  | opaquePath => simp [kind]
  | special =>
      have atHost : ('/' :: '/' :: (host ++ '/' :: path)).dropWhile
          (fun char => char = '/' || char = '\\') = host ++ '/' :: path := by
        obtain ⟨first, others, rfl⟩ := List.exists_cons_of_ne_nil origin.hosted
        have apart := origin.whole first (by simp)
        simp only [endsAuthority, Bool.or_eq_false_iff] at apart
        simp_all
      simp only [kind, atHost, decide_true]

/-- A path behind a scheme and a host is read as it is, in its normal form. -/
theorem parse_path {url : Url} (origin : IsOriginOf scheme host)
    (reads : parse (String.ofList (scheme ++ "://".toList ++ host ++ ['/'])) = .ok url)
    {first : List Char} {others : List (List Char)}
    (plain : ∀ segment ∈ first :: others, IsPlainSegment segment) :
    parse (String.ofList (scheme ++ "://".toList ++ host ++
        Replica.joinPath [] (first :: others))) =
      .ok { url with
        path := String.ofList (Replica.joinPath [] (first :: others)), query := none } := by
  have joined : Replica.joinPath [] (first :: others) =
      '/' :: (first ++ Replica.joinPath [] others) := by
    simp [Replica.joinPath]
  have absent {char : Char} (isMark : char ∈ marks) (notSlash : char ≠ '/') :
      char ∉ first ++ Replica.joinPath [] others := by
    have nowhere := not_mem_joinPath plain isMark notSlash
    rw [joined] at nowhere
    exact fun char_mem => nowhere (List.mem_cons_of_mem _ char_mem)
  have visible := visible_joinPath plain
  rw [joined, List.forall_mem_cons] at visible
  rw [joined, parse_origin origin visible.2]
  rw [parse_origin origin (List.forall_mem_nil _)] at reads
  rw [withAuthority_append_path origin.whole (absent (by decide) (by decide))
    (absent (by decide) (by decide)), reads, Except.map, normalPath_of_isPlain plain, joined]

end Url

/-- What is looked for is found behind a text in which it cannot begin. -/
theorem Text.cut?_of_not_mem {first : Char} {before needle rest : List Char}
    (absent : first ∉ before) :
    cut? (first :: needle) (before ++ first :: needle ++ rest) = some (before, rest) := by
  induction before with
  | nil =>
      have found : dropStart? (first :: needle) (first :: needle ++ rest) = some rest :=
        dropStart?_self_append rest
      simp only [List.cons_append] at found
      simp [cut?, found]
  | cons other before ih =>
      simp only [List.mem_cons, not_or] at absent
      have below := ih absent.2
      simp only [List.append_assoc, List.cons_append] at below ⊢
      simp [cut?, dropStart?, absent.1, below]

end Segments

/-- The base of URLs is a scheme other than that of files and a host, which can be read. -/
def IsOrigin (base : String) : Prop :=
  ∃ scheme host, base = String.ofList (scheme ++ "://".toList ++ host) ∧
    Url.IsOriginOf scheme host ∧ ∃ url, Url.parse (base ++ "/") = .ok url

namespace Replica

variable {base path query : String}

/-- The replica takes the resource id out of the path again. -/
theorem resourceId_append (origin : IsOrigin base) (plain : IsPlainPath path) :
    resourceId (base ++ path) = path := by
  obtain ⟨scheme, host, rfl, parts, url, reads⟩ := origin
  obtain ⟨first, others, path_eq, segments⟩ := plain
  have whole : String.ofList (scheme ++ "://".toList ++ host) ++ path =
      String.ofList (scheme ++ "://".toList ++ host ++ joinPath [] (first :: others)) := by
    simp [← String.toList_inj, path_eq]
  have root : String.ofList (scheme ++ "://".toList ++ host) ++ "/" =
      String.ofList (scheme ++ "://".toList ++ host ++ ['/']) := by
    simp [← String.toList_inj]
  rw [root] at reads
  rw [whole, resourceId, Url.parse_path parts reads segments]
  simp [← String.toList_inj, path_eq]

theorem keptSegments_of_isPlain {segments : List (List Char)}
    (plain : ∀ segment ∈ segments, IsPlainSegment segment) :
    keptSegments segments = segments ∧ castOf? segments = none := by
  constructor
  · rw [keptSegments, List.filter_eq_self]
    intro segment segment_mem
    have isPlain := plain segment segment_mem
    simp [isPlain.ne_nil, isPlain.noCast]
  · have noCasts : segments.filter isCast = [] := by
      rw [List.filter_eq_nil_iff]
      intro segment segment_mem
      simp [(plain segment segment_mem).noCast]
    rw [castOf?, noCasts]
    rfl

/-- A replica keeps what stands at a plain path where its URL says. -/
theorem Location.ofUrl_append (origin : IsOrigin base) (plain : IsPlainPath path) :
    Location.ofUrl (base ++ path) = ⟨base ++ path, none⟩ := by
  obtain ⟨scheme, host, rfl, parts, -⟩ := origin
  obtain ⟨first, others, path_eq, segments⟩ := plain
  have joined : joinPath [] (first :: others) = '/' :: (first ++ joinPath [] others) := by
    simp [joinPath]
  have noColon : ':' ∉ scheme := by
    intro scheme_mem
    exact absurd (parts.letters ':' scheme_mem) (by decide)
  have noSlash : '/' ∉ host := by
    intro host_mem
    exact absurd (parts.whole '/' host_mem) (by decide)
  have characters : (String.ofList (scheme ++ "://".toList ++ host) ++ path).toList =
      scheme ++ "://".toList ++ (host ++ '/' :: (first ++ joinPath [] others)) := by
    simp [path_eq, joined]
  have noQuery :
      '?' ∉ scheme ++ "://".toList ++ (host ++ '/' :: (first ++ joinPath [] others)) := by
    have inPath := Url.not_mem_joinPath segments (by decide) (by decide : '?' ≠ '/')
    rw [joined] at inPath
    simp only [List.mem_append, not_or]
    refine ⟨⟨?_, by decide⟩, ?_, inPath⟩
    · intro scheme_mem
      exact absurd (parts.letters '?' scheme_mem) (by decide)
    · intro host_mem
      exact absurd (parts.whole '?' host_mem) (by decide)
  have divided : ∀ segment ∈ first :: others, '/' ∉ segment :=
    fun segment segment_mem => (segments segment segment_mem).not_mem (by decide)
  obtain ⟨kept, noCast⟩ := keptSegments_of_isPlain segments
  rw [ofUrl, characters, Text.takeWhile_of_not_mem noQuery,
    splitOrigin_append (Text.cut?_of_not_mem noColon) noSlash]
  simp only [Text.pieces_joinPath divided, kept, noCast]
  simp [joinPath, path_eq, ← String.toList_inj]

end Replica

namespace Text

theorem trim_of_visible {text : String} (visible : ∀ char ∈ text.toList, isBlank char = false) :
    trim text = text := by
  have noneDropped (chars : List Char) (visible : ∀ char ∈ chars, isBlank char = false) :
      chars.dropWhile isBlank = chars := by
    cases chars with
    | nil => rfl
    | cons first rest => simp [visible first (by simp)]
  rw [trim, trimChars, noneDropped _ visible, noneDropped _ (by simpa using visible),
    List.reverse_reverse, String.ofList_toList]

theorem occursIn_append (before needle after : List Char) :
    occursIn needle (before ++ needle ++ after) = true := by
  induction before with
  | nil =>
      rw [List.nil_append]
      cases needle with
      | nil => cases after <;> rfl
      | cons first needle =>
          have found : dropStart? (first :: needle) (first :: needle ++ after) = some after :=
            dropStart?_self_append after
          rw [List.cons_append] at found
          simp [occursIn, found]
  | cons first before ih =>
      rw [List.append_assoc] at ih ⊢
      simp [occursIn, ih]

end Text

section Paths

variable {path name : String}

theorem IsPlainPath.child (plain : IsPlainPath path) (named : IsPlainSegment name.toList) :
    IsPlainPath (path ++ "/" ++ name) := by
  obtain ⟨first, others, path_eq, segments⟩ := plain
  refine ⟨first, others ++ [name.toList], ?_, ?_⟩
  · simp [path_eq, Replica.joinPath]
  · rw [← List.cons_append, List.forall_mem_append]
    exact ⟨segments, by simpa using named⟩

theorem IsPlainPath.trim_eq (plain : IsPlainPath path) : Text.trim path = path := by
  obtain ⟨first, others, path_eq, segments⟩ := plain
  apply Text.trim_of_visible
  rw [path_eq]
  exact Url.forall_mem_joinPath segments (by decide) fun _ isPlain =>
    (Url.apart_of_isPlain isPlain).2.2.1

theorem IsPlainPath.exists_relative (plain : IsPlainPath path) :
    ∃ relative, path = "/" ++ relative ∧ Text.dropLeading '/' path = relative := by
  obtain ⟨first, others, path_eq, segments⟩ := plain
  have isPlain := segments first (by simp)
  obtain ⟨char, rest, rfl⟩ := List.exists_cons_of_ne_nil isPlain.ne_nil
  have notSlash : char ≠ '/' := by
    have absent := isPlain.not_mem (by decide : '/' ∈ Url.marks)
    simp only [List.mem_cons, not_or] at absent
    exact Ne.symm absent.1
  refine ⟨String.ofList (char :: rest ++ Replica.joinPath [] others), ?_, ?_⟩
  · simp [← String.toList_inj, path_eq, Replica.joinPath]
  · simp [Text.dropLeading, path_eq, Replica.joinPath, notSlash]

/-- The last segment of a path is the name behind it. -/
theorem Replica.lastSegment_append (noSlash : '/' ∉ name.toList) :
    lastSegment (path ++ "/" ++ name) = name := by
  have whole : path ++ "/" ++ name = String.ofList (path.toList ++ '/' :: name.toList) := by
    simp [← String.toList_inj]
  rw [lastSegment, whole, Text.lastPiece_append noSlash, String.ofList_toList]

end Paths

namespace ResourceManager

/-- A resource manager at a base that can be read, with names that are plain. -/
structure IsNamed (manager : ResourceManager) : Prop where
  origin : IsOrigin manager.base
  subscription : IsPlainName manager.subscriptionId
  group : IsPlainName manager.resourceGroup

variable {manager : ResourceManager} {path account : String}

/-- Where a plain path points that is sent with any query. -/
theorem IsNamed.ofUrl_url (named : manager.IsNamed) (plain : IsPlainPath path) (version : String)
    (query : List (String × String)) :
    Replica.Location.ofUrl (manager.url path version query) = ⟨manager.base ++ path, none⟩ := by
  obtain ⟨relative, path_eq, dropped⟩ := plain.exists_relative
  have whole : manager.base ++ "/" ++ relative = manager.base ++ path := by
    rw [path_eq, String.append_assoc]
  rw [url, dropped, Replica.Location.ofUrl_append_query, whole,
    Replica.Location.ofUrl_append named.origin plain]

theorem IsNamed.resourceGroupPath_plain (named : manager.IsNamed) :
    IsPlainPath manager.resourceGroupPath := by
  refine ⟨"subscriptions".toList, [manager.subscriptionId.toList, "resourceGroups".toList,
    manager.resourceGroup.toList], ?_, ?_⟩
  · simp [resourceGroupPath, subscriptionPath, Replica.joinPath]
  · simp only [List.forall_mem_cons]
    exact ⟨(by decide), named.subscription.isPlainSegment,
      (by decide), named.group.isPlainSegment, List.forall_mem_nil _⟩

theorem IsNamed.identitiesPath_plain (named : manager.IsNamed) :
    IsPlainPath manager.identitiesPath := by
  have steps : manager.identitiesPath = manager.resourceGroupPath ++ "/" ++ "providers" ++ "/" ++
      "Microsoft.ManagedIdentity" ++ "/" ++ "userAssignedIdentities" := by
    simp [identitiesPath, ← String.toList_inj]
  rw [steps]
  apply IsPlainPath.child _ (by decide)
  apply IsPlainPath.child _ (by decide)
  exact named.resourceGroupPath_plain.child (by decide)

theorem IsNamed.assignmentsPath_plain (named : manager.IsNamed) (plain : IsPlainName account) :
    IsPlainPath (assignmentsPath (manager.storageAccountScope account)) := by
  have steps : assignmentsPath (manager.storageAccountScope account) =
      manager.resourceGroupPath ++ "/" ++ "providers" ++ "/" ++ "Microsoft.Storage" ++ "/" ++
        "storageAccounts" ++ "/" ++ account ++ "/" ++ "providers" ++ "/" ++
        "Microsoft.Authorization" ++ "/" ++ "roleAssignments" := by
    simp [assignmentsPath, storageAccountScope, ← String.toList_inj]
  rw [steps]
  apply IsPlainPath.child _ (by decide)
  apply IsPlainPath.child _ (by decide)
  apply IsPlainPath.child _ (by decide)
  apply IsPlainPath.child _ plain.isPlainSegment
  apply IsPlainPath.child _ (by decide)
  apply IsPlainPath.child _ (by decide)
  exact named.resourceGroupPath_plain.child (by decide)

end ResourceManager

end Provision
