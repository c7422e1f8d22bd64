import Provision.Proofs.ResourceLocations

/-!
# Queries that are read back

A form writes its names and values with every byte escaped that could be taken for anything
else, so that reading it gives the same names and values back, whatever text they are.  The URL
of a resource is cut at its first question mark: what stands in front of it names the resource,
and what follows is a form.  No value can end the form early, since no fragment begins in it.
-/

namespace Provision

namespace Text.Utf8

variable {rest : List UInt8}

theorem toNat_byte {value : Nat} (byte : value < 0x100) : (UInt8.ofNat value).toNat = value := by
  simpa using byte

theorem lead?_two {lead : Nat} (above : 0xC2 ≤ lead) (below : lead < 0xE0) :
    lead? (UInt8.ofNat lead) = some (0x80, 0xBF, 0, lead - 0xC0) := by
  have byte := @toNat_byte lead (by omega)
  have last : lead ≤ 0xDF := by omega
  simp [lead?, UInt8.le_iff_toNat_le, byte, above, last]

theorem lead?_three {lead : Nat} (above : 0xE0 ≤ lead) (below : lead < 0xF0) :
    lead? (UInt8.ofNat lead) = some (if lead = 0xE0 then 0xA0 else 0x80,
      if lead = 0xED then 0x9F else 0xBF, 1, lead - 0xE0) := by
  obtain ⟨index, rfl⟩ : ∃ index : Fin 16, lead = 0xE0 + index :=
    ⟨⟨lead - 0xE0, by omega⟩, by simp; omega⟩
  clear above below
  revert index
  decide

theorem lead?_four {lead : Nat} (above : 0xF0 ≤ lead) (below : lead < 0xF5) :
    lead? (UInt8.ofNat lead) = some (if lead = 0xF0 then 0x90 else 0x80,
      if lead = 0xF4 then 0x8F else 0xBF, 2, lead - 0xF0) := by
  obtain ⟨index, rfl⟩ : ∃ index : Fin 5, lead = 0xF0 + index :=
    ⟨⟨lead - 0xF0, by omega⟩, by simp; omega⟩
  clear above below
  revert index
  decide

theorem decodeFrom_lead {lead more bits : Nat} {low high : UInt8} (wide : 0x80 ≤ lead)
    (byte : lead < 0x100) (leads : lead? (UInt8.ofNat lead) = some (low, high, more, bits)) :
    decodeFrom none (UInt8.ofNat lead :: rest) =
      decodeFrom (some ⟨low, high, more, bits⟩) rest := by
  have notAscii : ¬UInt8.ofNat lead < 0x80 := by
    simp only [UInt8.lt_iff_toNat_lt, UInt8.toNat_ofNat', UInt8.toNat_ofNat]
    omega
  simp only [decodeFrom, notAscii, if_false, leads]

theorem decodeFrom_more {bits next more : Nat} {low high : UInt8} (above : low.toNat ≤ next)
    (below : next ≤ high.toNat) :
    decodeFrom (some ⟨low, high, more + 1, bits⟩) (UInt8.ofNat next :: rest) =
      decodeFrom (some ⟨0x80, 0xBF, more, bits * 0x40 + (next - 0x80)⟩) rest := by
  have highest := high.toNat_lt
  have byte := @toNat_byte next (by omega)
  simp [decodeFrom, UInt8.le_iff_toNat_le, byte, above, below]

theorem decodeFrom_last {bits next : Nat} {low high : UInt8} (above : low.toNat ≤ next)
    (below : next ≤ high.toNat) :
    decodeFrom (some ⟨low, high, 0, bits⟩) (UInt8.ofNat next :: rest) =
      some (Char.ofNat (bits * 0x40 + (next - 0x80))) :: decodeFrom none rest := by
  have highest := high.toNat_lt
  have byte := @toNat_byte next (by omega)
  simp [decodeFrom, UInt8.le_iff_toNat_le, byte, above, below]

/-- The bytes of a character are read as that character. -/
theorem decode_char (char : Char) :
    decode (String.utf8EncodeChar char ++ rest) = some char :: decode rest := by
  have valid : char.toNat < 0xD800 ∨ 0xDFFF < char.toNat ∧ char.toNat < 0x110000 := char.valid
  have whole (point : Nat) (same : point = char.toNat) : Char.ofNat point = char := by
    rw [same, Char.ofNat_toNat]
  have code : char.val.toNat = char.toNat := rfl
  simp only [String.utf8EncodeChar, decode, code]
  generalize char.toNat = point at *
  split
  case isTrue ascii =>
    have isAscii : UInt8.ofNat point < 0x80 := by
      simp only [UInt8.lt_iff_toNat_lt, UInt8.toNat_ofNat', UInt8.toNat_ofNat]
      omega
    simp only [List.cons_append, List.nil_append, decodeFrom, isAscii, if_true]
    rw [toNat_byte (by omega), whole point rfl]
  split
  case isTrue two =>
    simp only [List.cons_append, List.nil_append]
    rw [decodeFrom_lead (by omega) (by omega) (lead?_two (by omega) (by omega)),
      decodeFrom_last (by simp) (by simp; omega), whole _ (by omega)]
  split
  case isTrue three =>
    simp only [List.cons_append, List.nil_append]
    rw [decodeFrom_lead (by omega) (by omega) (lead?_three (by omega) (by omega)),
      decodeFrom_more (by split <;> simp; omega) (by split <;> simp <;> omega),
      decodeFrom_last (by simp) (by simp; omega), whole _ (by omega)]
  case isFalse four =>
    simp only [List.cons_append, List.nil_append]
    rw [decodeFrom_lead (by omega) (by omega) (lead?_four (by omega) (by omega)),
      decodeFrom_more (by split <;> simp; omega) (by split <;> simp <;> omega),
      decodeFrom_more (by simp) (by simp; omega), decodeFrom_last (by simp) (by simp; omega),
      whole _ (by omega)]

theorem decode_encode (text : List Char) : decode (encode text) = text.map some := by
  induction text with
  | nil => rfl
  | cons char text ih =>
      have split : encode (char :: text) = String.utf8EncodeChar char ++ encode text := rfl
      rw [split, decode_char, ih, List.map_cons]

theorem decodeLossy_encode (text : String) : decodeLossy (encode text.toList) = text := by
  simp [decodeLossy, decode_encode, Function.comp_def]

end Text.Utf8

namespace Url

variable {byte : UInt8} {rest : List UInt8}

theorem percentDecode_cons (plain : byte ≠ 0x25) :
    percentDecode (byte :: rest) = byte :: percentDecode rest := by
  rcases rest with _ | ⟨high, _ | ⟨low, rest⟩⟩
  · rfl
  · rfl
  · simp only [percentDecode, plain, if_false]
    split <;> rfl

theorem hexDigit_reads : ∀ value : Fin 16,
    String.utf8EncodeChar (hexDigit value) = [UInt8.ofNat (hexDigit value).toNat] ∧
      Text.hexValue? (Char.ofNat (UInt8.ofNat (hexDigit value).toNat).toNat) = some value.val := by
  decide

theorem percentDecode_escapeByte (byte : UInt8) (rest : List UInt8) :
    percentDecode (Text.Utf8.encode (escapeByte byte) ++ rest) = byte :: percentDecode rest := by
  have bound := byte.toNat_lt
  obtain ⟨highWritten, highRead⟩ := hexDigit_reads ⟨byte.toNat / 16, by omega⟩
  obtain ⟨lowWritten, lowRead⟩ := hexDigit_reads ⟨byte.toNat % 16, by omega⟩
  have percent : String.utf8EncodeChar '%' = [0x25] := by decide
  have whole : byte.toNat / 16 * 16 + byte.toNat % 16 = byte.toNat := by omega
  simp only at highWritten highRead lowWritten lowRead
  simp only [Text.Utf8.encode, escapeByte, List.flatMap_cons, List.flatMap_nil, percent,
    highWritten, lowWritten, List.cons_append, List.nil_append, percentDecode, highRead, lowRead,
    if_true, whole, UInt8.ofNat_toNat]

namespace Form

/-- A character as it is read: a plus stands for a space. -/
def spaced (char : Char) : Char := if char = '+' then ' ' else char

/-- The name or the value that is written in a form. -/
def decodeText (text : List Char) : String :=
  Text.Utf8.decodeLossy (percentDecode (Text.Utf8.encode (text.map spaced)))

/-- The name in front of the first equals sign, and the value behind it. -/
def decodePair (text : List Char) : String × String :=
  (decodeText (text.takeWhile (· ≠ '=')), decodeText ((text.dropWhile (· ≠ '=')).drop 1))

/-- The named values of a form. -/
def decode (text : String) : List (String × String) :=
  ((Text.pieces '&' text.toList).filter (· ≠ [])).map decodePair

/-- The characters that end a value, a name, or all that a form stands in. -/
def marks : List Char := ['&', '=', '?', '#']

variable {byte : UInt8} {text : String} {written : List Char} {mark : Char}

/-- What a byte is written with: a plus for a space, the character that it is, or its escape.  None
of them can be taken for anything else. -/
inductive Written (byte : UInt8) : List Char → Prop where
  | space (isSpace : byte = 0x20) : Written byte ['+']
  | plain {char : Char} (code : char.toNat = byte.toNat) (isAscii : byte.toNat < 128)
      (notPercent : byte ≠ 0x25) (apart : char ∉ '+' :: marks) : Written byte [char]
  | escaped (apart : ∀ char ∈ escapeByte byte, char ∉ '+' :: marks) : Written byte (escapeByte byte)

theorem bounds_of_isPlain (plain : isPlain byte = true) :
    (48 ≤ byte.toNat ∧ byte.toNat ≤ 57 ∨ 65 ≤ byte.toNat ∧ byte.toNat ≤ 90) ∨
      97 ≤ byte.toNat ∧ byte.toNat ≤ 122 ∨ byte.toNat ∈ [42, 45, 46, 95] := by
  simpa [isPlain, UInt8.le_iff_toNat_le, ← UInt8.toNat_inj, or_assoc] using plain

theorem hexDigit_apart : ∀ value : Fin 16, hexDigit value ∉ '+' :: marks := by
  decide

theorem escapeByte_apart (byte : UInt8) : ∀ char ∈ escapeByte byte, char ∉ '+' :: marks := by
  have bound := byte.toNat_lt
  have high := hexDigit_apart ⟨byte.toNat / 16, by omega⟩
  have low := hexDigit_apart ⟨byte.toNat % 16, by omega⟩
  simp only [escapeByte, List.forall_mem_cons, high, low, not_false_eq_true, true_and]
  exact ⟨by decide, List.forall_mem_nil _⟩

theorem encodeByte_written (byte : UInt8) : Written byte (encodeByte byte) := by
  rw [encodeByte]
  split
  case isTrue isSpace => exact .space isSpace
  split
  case isTrue plain =>
    have bounds := bounds_of_isPlain plain
    simp only [List.mem_cons, List.not_mem_nil, or_false] at bounds
    have code : (Char.ofNat byte.toNat).toNat = byte.toNat := Text.toNat_ofNat (by omega)
    refine .plain code (by omega) ?_ ?_
    · rintro rfl
      simp at bounds
    · intro isMark
      have codes : ('+' :: marks).map Char.toNat = [43, 38, 61, 63, 35] := rfl
      have code_mem : (Char.ofNat byte.toNat).toNat ∈ ('+' :: marks).map Char.toNat :=
        List.mem_map_of_mem isMark
      rw [codes, code] at code_mem
      simp only [List.mem_cons, List.not_mem_nil, or_false] at code_mem
      omega
  case isFalse => exact .escaped (escapeByte_apart byte)

theorem Written.not_mem (writes : Written byte written) (isMark : mark ∈ marks) :
    mark ∉ written := by
  intro mark_mem
  cases writes with
  | space =>
      obtain rfl := List.mem_singleton.mp mark_mem
      exact absurd isMark (by decide)
  | plain _ _ _ apart =>
      obtain rfl := List.mem_singleton.mp mark_mem
      exact apart (List.mem_cons_of_mem _ isMark)
  | escaped apart => exact apart mark mark_mem (List.mem_cons_of_mem _ isMark)

theorem spaced_of_not_mem {char : Char} (apart : char ∉ '+' :: marks) : spaced char = char := by
  have notPlus : char ≠ '+' := List.ne_of_not_mem_cons apart
  rw [spaced, if_neg notPlus]

/-- A byte that is written is read again. -/
theorem Written.percentDecode_append (writes : Written byte written) (rest : List UInt8) :
    percentDecode (Text.Utf8.encode (written.map spaced) ++ rest) = byte :: percentDecode rest := by
  cases writes with
  | space isSpace =>
      have bytes : Text.Utf8.encode (['+'].map spaced) = [0x20] := by decide
      rw [bytes, isSpace, List.singleton_append, percentDecode_cons (by decide)]
  | @plain char code isAscii notPercent apart =>
      have oneByte : byte.toNat ≤ 127 := by omega
      have bytes : Text.Utf8.encode ([char].map spaced) = [byte] := by
        simp [Text.Utf8.encode, spaced_of_not_mem apart, String.utf8EncodeChar, code, oneByte]
      rw [bytes, List.singleton_append, percentDecode_cons notPercent]
  | escaped apart =>
      have same : (escapeByte byte).map spaced = escapeByte byte := by
        rw [List.map_congr_left fun char char_mem => spaced_of_not_mem (apart char char_mem),
          List.map_id']
      rw [same, percentDecode_escapeByte]

theorem not_mem_encodeText (isMark : mark ∈ marks) : mark ∉ encodeText text := by
  intro written
  obtain ⟨byte, -, inByte⟩ := List.mem_flatMap.mp written
  exact (encodeByte_written byte).not_mem isMark inByte

theorem percentDecode_encodeBytes (bytes : List UInt8) :
    percentDecode (Text.Utf8.encode ((bytes.flatMap encodeByte).map spaced)) = bytes := by
  induction bytes with
  | nil => rfl
  | cons byte bytes ih =>
      have split : Text.Utf8.encode (((byte :: bytes).flatMap encodeByte).map spaced) =
          Text.Utf8.encode ((encodeByte byte).map spaced) ++
            Text.Utf8.encode ((bytes.flatMap encodeByte).map spaced) := by
        simp [Text.Utf8.encode]
      rw [split, (encodeByte_written byte).percentDecode_append, ih]

theorem decodeText_encodeText (text : String) : decodeText (encodeText text) = text := by
  rw [decodeText, encodeText, percentDecode_encodeBytes, Text.Utf8.decodeLossy_encode]

theorem decodePair_encodePair (pair : String × String) : decodePair (encodePair pair) = pair := by
  have apart : ∀ char ∈ encodeText pair.1, decide (char ≠ '=') = true := by
    intro char written
    simpa using ne_of_mem_of_not_mem written (not_mem_encodeText (by decide : '=' ∈ marks))
  simp only [decodePair, encodePair]
  rw [List.takeWhile_append_of_pos apart, List.dropWhile_append_of_pos apart]
  simp [decodeText_encodeText]

theorem pieces_encodePairs (pair : String × String) (pairs : List (String × String)) :
    Text.pieces '&' (encodePairs (pair :: pairs)) = (pair :: pairs).map encodePair := by
  have whole (pair : String × String) : '&' ∉ encodePair pair := by
    simp [encodePair, not_mem_encodeText (by decide : '&' ∈ marks)]
  induction pairs generalizing pair with
  | nil => simp [encodePairs, Text.pieces_of_not_mem (whole pair)]
  | cons next pairs ih =>
      simp [encodePairs, Text.pieces_append, Text.pieces_of_not_mem (whole pair), ih]

/-- What a form says is what was written into it. -/
theorem decode_encode (pairs : List (String × String)) : decode (encode pairs) = pairs := by
  cases pairs with
  | nil => decide
  | cons pair pairs =>
      have given : ∀ written ∈ (pair :: pairs).map encodePair, decide (written ≠ []) = true := by
        intro written isPair
        obtain ⟨other, -, rfl⟩ := List.mem_map.mp isPair
        simp [encodePair]
      rw [decode, encode, String.toList_ofList, pieces_encodePairs, List.filter_eq_self.mpr given,
        List.map_map]
      simp [Function.comp_def, decodePair_encodePair]

/-- A form ends neither what it stands in nor itself. -/
theorem not_mem_encode (pairs : List (String × String)) (isMark : mark ∈ ['?', '#']) :
    mark ∉ (encode pairs).toList := by
  have isFormMark : mark ∈ marks := List.mem_append_right ['&', '='] isMark
  have notAmpersand : mark ≠ '&' := by
    rintro rfl
    simp at isMark
  have notEquals : mark ≠ '=' := by
    rintro rfl
    simp at isMark
  have whole (pair : String × String) : mark ∉ encodePair pair := by
    simp [encodePair, not_mem_encodeText isFormMark, notEquals]
  rw [encode, String.toList_ofList]
  induction pairs using encodePairs.induct with
  | case1 => simp [encodePairs]
  | case2 pair => exact whole pair
  | case3 pair next rest ih => simp [encodePairs, whole pair, notAmpersand, ih]

end Form

end Url

namespace ResourceManager

variable {base resourceId : String} {mark : Char}

theorem not_mem_resource (notSlash : mark ≠ '/') (inBase : mark ∉ base.toList)
    (inId : mark ∉ resourceId.toList) :
    mark ∉ (Text.dropTrailing '/' base ++ "/" ++ Text.dropLeading '/' resourceId).toList := by
  have inStem : mark ∉ (Text.dropTrailing '/' base).toList := by
    simp only [Text.dropTrailing, String.toList_ofList, List.mem_reverse]
    intro kept
    have written := (List.dropWhile_sublist _).subset kept
    exact inBase (List.mem_reverse.mp written)
  have inTail : mark ∉ (Text.dropLeading '/' resourceId).toList := by
    simp only [Text.dropLeading, String.toList_ofList]
    intro kept
    exact inId ((List.dropWhile_sublist _).subset kept)
  simp [inStem, inTail, notSlash]

theorem splitFirst?_question {resource form : String} (whole : '?' ∉ resource.toList) :
    Text.splitFirst? "?" (resource ++ "?" ++ form) = some (resource, form) := by
  have characters : (resource ++ "?" ++ form).toList = resource.toList ++ ['?'] ++ form.toList := by
    simp
  have cut : Text.cut? ['?'] (resource.toList ++ ['?'] ++ form.toList) =
      some (resource.toList, form.toList) := Text.cut?_of_not_mem whole
  have question : "?".toList = ['?'] := rfl
  rw [Text.splitFirst?, characters, question, cut]
  simp

/-- A resource and a query are told apart again from the URL: what stands in front of the first
question mark is the resource, what follows is read as the version and the query, and there is no
fragment to cut off any of it. -/
theorem url_reads_back (baseWhole : ∀ mark ∈ ['?', '#'], mark ∉ base.toList)
    (idWhole : ∀ mark ∈ ['?', '#'], mark ∉ resourceId.toList)
    (subscriptionId resourceGroup version : String) (pageLimit : Nat)
    (query : List (String × String)) :
    let url := (ofBase base subscriptionId resourceGroup pageLimit).url resourceId
    (∃ form, Text.splitFirst? "?" (url version query) =
        some (Text.dropTrailing '/' base ++ "/" ++ Text.dropLeading '/' resourceId, form) ∧
      Url.Form.decode form = ("api-version", version) :: query) ∧
    '#' ∉ (url version query).toList ∧
    ∀ otherVersion otherQuery, url otherVersion otherQuery = url version query →
      otherVersion = version ∧ otherQuery = query := by
  intro url
  have whole {mark : Char} (isMark : mark ∈ ['?', '#']) (notSlash : mark ≠ '/') :=
    not_mem_resource notSlash (baseWhole mark isMark) (idWhole mark isMark)
  have splits (version : String) (query : List (String × String)) :
      Text.splitFirst? "?" (url version query) =
        some (Text.dropTrailing '/' base ++ "/" ++ Text.dropLeading '/' resourceId,
          Url.Form.encode (("api-version", version) :: query)) :=
    splitFirst?_question (whole (by decide) (by decide))
  refine ⟨⟨_, splits version query, Url.Form.decode_encode _⟩, ?_, ?_⟩
  · have inResource := @whole '#' (by decide) (by decide)
    have inForm := @Url.Form.not_mem_encode '#' (("api-version", version) :: query) (by decide)
    have written : url version query =
        Text.dropTrailing '/' base ++ "/" ++ Text.dropLeading '/' resourceId ++ "?" ++
          Url.Form.encode (("api-version", version) :: query) := rfl
    rw [written, String.toList_append, String.toList_append]
    simp only [List.mem_append, not_or]
    exact ⟨⟨inResource, by decide⟩, inForm⟩
  · intro otherVersion otherQuery same
    have forms := splits version query
    rw [← same, splits, Option.some.injEq, Prod.mk.injEq] at forms
    have pairs := congrArg Url.Form.decode forms.2
    simpa [Url.Form.decode_encode] using pairs

/-- Names and values may hold all that a query is made of. -/
theorem url_reads_back_sample :
    (∀ mark ∈ ['?', '#'], mark ∉ "https://management.azure.com//".toList) ∧
    (∀ mark ∈ ['?', '#'], mark ∉ "/subscriptions/sub-1".toList) ∧
    ∃ form, Text.splitFirst? "?"
        ((ofBase "https://management.azure.com//" "sub-1" "rg-1" 3).url "/subscriptions/sub-1"
          "2022-04-01&x=1#" [("$filter", "principalId eq 'a+b%26'"), ("", "é=🔑?")]) =
        some ("https://management.azure.com/subscriptions/sub-1", form) ∧
      Url.Form.decode form = [("api-version", "2022-04-01&x=1#"),
        ("$filter", "principalId eq 'a+b%26'"), ("", "é=🔑?")] := by
  have baseWhole : ∀ mark ∈ ['?', '#'], mark ∉ "https://management.azure.com//".toList := by simp
  have idWhole : ∀ mark ∈ ['?', '#'], mark ∉ "/subscriptions/sub-1".toList := by simp
  have resource : Text.dropTrailing '/' "https://management.azure.com//" ++ "/" ++
      Text.dropLeading '/' "/subscriptions/sub-1" =
        "https://management.azure.com/subscriptions/sub-1" := by decide
  obtain ⟨⟨form, splits, reads⟩, -⟩ := url_reads_back baseWhole idWhole "sub-1" "rg-1"
    "2022-04-01&x=1#" 3 [("$filter", "principalId eq 'a+b%26'"), ("", "é=🔑?")]
  rw [resource] at splits
  exact ⟨baseWhole, idWhole, form, splits, reads⟩

end ResourceManager

end Provision
