import Mathlib.Algebra.GroupWithZero.Nat
import Mathlib.Data.List.Forall2
import Provision.Proofs.Locations
import Provision.Report

/-!
# The lines of a report

A report for people has one line for each value, and under the name of a list one line for
each element.  What is printed as JSON stays on its line: in compact text there is no line
break outside of strings, and inside of strings it is escaped.  The names of values, and the
strings that are printed as they are, are not escaped, so that the lines of a report are those
of its values exactly if there is no line break in any of these.
-/

namespace Provision

namespace Text

/-- The lines of a text; an empty text has none. -/
def lines (text : String) : List String := if text = "" then [] else splitOn '\n' text

/-- A text without a line break. -/
def OneLine (text : String) : Prop := '\n' ∉ text.toList

instance (text : String) : Decidable (OneLine text) :=
  inferInstanceAs (Decidable ('\n' ∉ text.toList))

variable {text other : String} {written : List String}

@[simp]
theorem oneLine_append : OneLine (text ++ other) ↔ OneLine text ∧ OneLine other := by
  simp [OneLine, not_or]

@[simp]
theorem oneLine_ofList {chars : List Char} : OneLine (String.ofList chars) ↔ '\n' ∉ chars := by
  simp [OneLine]

theorem oneLine_intercalate {separator : String} (joint : OneLine separator)
    (whole : ∀ line ∈ written, OneLine line) : OneLine (separator.intercalate written) := by
  rw [OneLine, String.toList_intercalate]
  induction written with
  | nil => simp
  | cons line rest ih =>
      rw [List.forall_mem_cons] at whole
      cases rest with
      | nil => simpa [OneLine] using whole.1
      | cons next rest =>
          have below := ih whole.2
          rw [List.map_cons, List.map_cons, List.intercalate_cons_cons]
          simp only [List.mem_append, not_or]
          exact ⟨⟨whole.1, joint⟩, below⟩

theorem length_pieces (separator : Char) (chars : List Char) :
    (pieces separator chars).length = chars.count separator + 1 := by
  induction chars with
  | nil => rfl
  | cons first rest ih =>
      by_cases same : first = separator
      · simp [pieces, same, ih]
      · obtain ⟨piece, others, split⟩ : ∃ piece others, pieces separator rest = piece :: others :=
          exists_pieces
        simp only [split, List.length_cons] at ih
        simp [pieces, same, split, ih]

theorem toList_join_cons_cons (line next : String) (rest : List String) :
    (join "\n" (line :: next :: rest)).toList =
      line.toList ++ '\n' :: (join "\n" (next :: rest)).toList := by
  simp [join]

/-- Lines that are put one after the other are read line by line again. -/
theorem splitOn_join (given : written ≠ []) (whole : ∀ line ∈ written, OneLine line) :
    splitOn '\n' (join "\n" written) = written := by
  induction written with
  | nil => exact absurd rfl given
  | cons line rest ih =>
      rw [List.forall_mem_cons] at whole
      have alone : pieces '\n' line.toList = [line.toList] := pieces_of_not_mem whole.1
      cases rest with
      | nil => simp [splitOn, join, alone]
      | cons next rest =>
          have below := ih (by simp) whole.2
          rw [splitOn] at below ⊢
          rw [toList_join_cons_cons, pieces_append, alone, List.map_append, below]
          simp

/-- Every break within a line makes one line more. -/
theorem count_join (given : written ≠ []) :
    (join "\n" written).toList.count '\n' + 1 =
      written.length + (written.map fun line => line.toList.count '\n').sum := by
  induction written with
  | nil => exact absurd rfl given
  | cons line rest ih =>
      cases rest with
      | nil => simp [join, Nat.add_comm]
      | cons next rest =>
          have below := ih (by simp)
          rw [toList_join_cons_cons, List.count_append, List.count_cons_self, List.map_cons,
            List.sum_cons, List.length_cons]
          omega

theorem join_ne_empty (given : written ≠ []) (filled : ∀ line ∈ written, line ≠ "") :
    join "\n" written ≠ "" := by
  cases written with
  | nil => exact absurd rfl given
  | cons line rest =>
      rw [List.forall_mem_cons] at filled
      cases rest with
      | nil => exact filled.1
      | cons next rest => simp [join, ← String.toList_inj, filled.1]

theorem length_lines_join (filled : ∀ line ∈ written, line ≠ "") :
    (lines (join "\n" written)).length =
      written.length + (written.map fun line => line.toList.count '\n').sum := by
  by_cases given : written = []
  · subst given
    rfl
  · rw [lines, if_neg (join_ne_empty given filled), splitOn, List.length_map, length_pieces,
      count_join given]

theorem lines_join (filled : ∀ line ∈ written, line ≠ "") (whole : ∀ line ∈ written, OneLine line) :
    lines (join "\n" written) = written := by
  by_cases given : written = []
  · subst given
    rfl
  · rw [lines, if_neg (join_ne_empty given filled), splitOn_join given whole]

end Text

namespace Json

open Text (OneLine oneLine_intercalate)

theorem newline_not_mem_toDigits (value : Nat) : '\n' ∉ Nat.toDigits 10 value := by
  intro mem
  exact absurd (Nat.isDigit_of_mem_toDigits (by decide) (by decide) mem) (by decide)

theorem oneLine_decimal (value : Nat) : OneLine (Text.decimal value) := by
  simp [Text.decimal, newline_not_mem_toDigits]

theorem oneLine_doubleText (bits : UInt64) : OneLine (Number.doubleText bits) := by
  have signWhole : OneLine (if bits.toNat < 0x8000000000000000 then "" else "-") := by
    split <;> decide
  have digits (value : Nat) := newline_not_mem_toDigits value
  have taken (value count : Nat) : '\n' ∉ (Nat.toDigits 10 value).take count :=
    fun mem => digits value (List.mem_of_mem_take mem)
  have dropped (value count : Nat) : '\n' ∉ (Nat.toDigits 10 value).drop count :=
    fun mem => digits value (List.mem_of_mem_drop mem)
  have zeros (count : Nat) : '\n' ∉ List.replicate count '0' := by simp
  simp only [Number.doubleText]
  generalize (if bits.toNat < 0x8000000000000000 then "" else "-") = sign at signWhole ⊢
  split
  · simp only [Text.oneLine_append]
    exact ⟨signWhole, by decide⟩
  split
  · split
    · simp only [Text.oneLine_append, Text.oneLine_ofList, List.mem_append, not_or]
      exact ⟨⟨signWhole, digits _, zeros _⟩, by decide⟩
    split
    · simp only [Text.oneLine_append, Text.oneLine_ofList]
      exact ⟨⟨⟨signWhole, taken _ _⟩, by decide⟩, dropped _ _⟩
    · simp only [Text.oneLine_append, Text.oneLine_ofList, List.mem_append, not_or]
      exact ⟨⟨signWhole, by decide⟩, zeros _, digits _⟩
  · have fraction (digits : List Char) (whole : '\n' ∉ digits.drop 1) :
        OneLine (if digits.length ≤ 1 then "" else "." ++ String.ofList (digits.drop 1)) := by
      split
      · decide
      · rw [Text.oneLine_append]
        exact ⟨by decide, Text.oneLine_ofList.mpr whole⟩
    have power (exponent : Int) : OneLine (if exponent < 0 then "-" else "+") := by
      split <;> decide
    have padding (exponent : Nat) : OneLine (if exponent < 10 then "0" else "") := by
      split <;> decide
    simp only [Text.oneLine_append, Text.oneLine_ofList]
    exact ⟨⟨⟨⟨⟨⟨signWhole, taken _ _⟩, fraction _ (dropped _ _)⟩, by decide⟩, power _⟩,
      padding _⟩, oneLine_decimal _⟩

theorem oneLine_number (number : Number) : OneLine number.text := by
  cases number with
  | int value =>
      simp only [Number.text]
      split
      · rw [Text.oneLine_append]
        exact ⟨by decide, oneLine_decimal _⟩
      · exact oneLine_decimal _
  | double bits => exact oneLine_doubleText bits

theorem hexDigit_ne_newline : ∀ value < 16, hexDigit value ≠ '\n' := by decide

theorem newline_not_mem_escapeChar (char : Char) : '\n' ∉ escapeChar char := by
  by_cases isBreak : char = '\n'
  · subst isBreak
    decide
  unfold escapeChar
  split
  case h_8 =>
    split
    · have first : char.toNat / 16 < 16 := by omega
      have second : char.toNat % 16 < 16 := Nat.mod_lt _ (by decide)
      simp [(hexDigit_ne_newline _ first).symm, (hexDigit_ne_newline _ second).symm]
    · simpa using Ne.symm isBreak
  all_goals decide

theorem oneLine_quote (text : String) : OneLine (quote text) := by
  rw [quote, Text.oneLine_ofList]
  simp [newline_not_mem_escapeChar]

mutual

/-- Compact text stays on one line, whatever is nested in a document. -/
theorem oneLine_compact : (document : Json) → OneLine document.compact
  | .null => by decide
  | .bool value => by cases value <;> decide
  | .number value => oneLine_number value
  | .string text => oneLine_quote text
  | .array elements => by
    simp only [compact, Text.oneLine_append]
    exact ⟨⟨by decide, oneLine_intercalate (by decide) (oneLine_compactElements elements)⟩,
      by decide⟩
  | .object members => by
    simp only [compact, Text.oneLine_append]
    exact ⟨⟨by decide, oneLine_intercalate (by decide) (oneLine_compactMembers members)⟩,
      by decide⟩

theorem oneLine_compactElements :
    (elements : List Json) → ∀ text ∈ compactElements elements, OneLine text
  | [] => by simp [compactElements]
  | element :: rest => by
    simp only [compactElements, List.forall_mem_cons]
    exact ⟨oneLine_compact element, oneLine_compactElements rest⟩

theorem oneLine_compactMembers :
    (members : List (String × Json)) → ∀ text ∈ compactMembers members, OneLine text
  | [] => by simp [compactMembers]
  | (name, value) :: rest => by
    simp only [compactMembers, List.forall_mem_cons, Text.oneLine_append]
    exact ⟨⟨⟨oneLine_quote name, by decide⟩, oneLine_compact value⟩, oneLine_compactMembers rest⟩

end

end Json

namespace Report

open Text (OneLine)

/-- The lines that a field is printed on. -/
inductive Printed : String × Json → List String → Prop
  | value {name : String} {value : Json} (noList : value.elements? = none) :
      Printed (name, value) [name ++ ": " ++ valueText value]
  | none {name : String} : Printed (name, .array []) [name ++ ": (none)"]
  | list {name : String} {elements : List Json} (given : elements ≠ []) :
      Printed (name, .array elements)
        ((name ++ ":") :: elements.map fun element => "  - " ++ valueText element)

/-- The number of lines that a value has room for: one, and one for each element of a list. -/
def height : Json → Nat
  | .array elements => 1 + elements.length
  | _ => 1

/-- The texts that are printed as they are: the name of a field, and the strings that the field
holds by itself or in a list. -/
inductive PrintsRaw : String × Json → String → Prop
  | name {name : String} {value : Json} : PrintsRaw (name, value) name
  | value {name text : String} : PrintsRaw (name, .string text) text
  | element {name text : String} {elements : List Json} (listed : .string text ∈ elements) :
      PrintsRaw (name, .array elements) text

variable {field : String × Json} {fields : List (String × Json)} {lines : List String}
  {blocks : List (List String)} {report : Report}

theorem printed_fieldLines (field : String × Json) : Printed field (fieldLines field) := by
  obtain ⟨name, value⟩ := field
  cases value with
  | array elements =>
      cases elements with
      | nil => exact .none
      | cons => exact .list (by simp)
  | _ => exact .value rfl

theorem Printed.eq_fieldLines (printed : Printed field lines) : lines = fieldLines field := by
  cases printed with
  | @value name value noList =>
      cases value with
      | array => cases noList
      | _ => rfl
  | none => rfl
  | @list name elements given =>
      cases elements with
      | nil => exact absurd rfl given
      | cons => rfl

theorem Printed.length_eq (printed : Printed field lines) : lines.length = height field.2 := by
  cases printed with
  | @value name value noList =>
      cases value with
      | array => cases noList
      | _ => rfl
  | none => rfl
  | list => simp [height, Nat.add_comm]

theorem Printed.ne_empty (printed : Printed field lines) : ∀ line ∈ lines, line ≠ "" := by
  have nonempty {start ending : String} (given : start ≠ "" ∨ ending ≠ "") :
      start ++ ending ≠ "" := by
    rw [Ne, String.append_eq_empty_iff]
    exact not_and_or.mpr given
  cases printed with
  | value =>
      rw [List.forall_mem_singleton]
      exact nonempty (.inl (nonempty (.inr (by decide))))
  | none =>
      rw [List.forall_mem_singleton]
      exact nonempty (.inr (by decide))
  | list =>
      rw [List.forall_mem_cons, List.forall_mem_map]
      exact ⟨nonempty (.inr (by decide)), fun _ _ => nonempty (.inl (by decide))⟩

theorem oneLine_valueText {value : Json} :
    OneLine (valueText value) ↔ ∀ text, value = .string text → OneLine text := by
  cases value with
  | string text => simp [valueText]
  | null => exact iff_of_true (by decide) (by simp)
  | _ => exact iff_of_true (Json.oneLine_compact _) (by simp)

theorem Printed.oneLine_iff (printed : Printed field lines) :
    (∀ line ∈ lines, OneLine line) ↔ ∀ text, PrintsRaw field text → OneLine text := by
  have colon : OneLine ": " := by decide
  have behind : OneLine ":" := by decide
  have none : OneLine ": (none)" := by decide
  have dash : OneLine "  - " := by decide
  cases printed with
  | @value name value noList =>
      simp only [List.forall_mem_singleton, Text.oneLine_append, oneLine_valueText, colon, and_true]
      constructor
      · rintro ⟨nameWhole, valueWhole⟩ text raw
        cases raw with
        | name => exact nameWhole
        | value => exact valueWhole text rfl
        | element => cases noList
      · intro whole
        refine ⟨whole name .name, ?_⟩
        rintro text rfl
        exact whole text .value
  | @none name =>
      simp only [List.forall_mem_singleton, Text.oneLine_append, none, and_true]
      constructor
      · intro nameWhole text raw
        cases raw with
        | name => exact nameWhole
        | element listed => cases listed
      · intro whole
        exact whole name .name
  | @list name elements given =>
      simp only [List.forall_mem_cons, List.forall_mem_map, Text.oneLine_append, oneLine_valueText,
        behind, dash, and_true, true_and]
      constructor
      · rintro ⟨nameWhole, elementsWhole⟩ text raw
        cases raw with
        | name => exact nameWhole
        | element listed => exact elementsWhole _ listed text rfl
      · intro whole
        refine ⟨whole name .name, ?_⟩
        rintro element listed text rfl
        exact whole text (.element listed)

theorem forall₂_printed_iff :
    List.Forall₂ Printed fields blocks ↔ blocks = fields.map fieldLines := by
  constructor
  · intro printed
    induction printed with
    | nil => rfl
    | cons first _ ih => rw [List.map_cons, first.eq_fieldLines, ih]
  · rintro rfl
    rw [List.forall₂_map_right_iff, List.forall₂_same]
    exact fun field _ => printed_fieldLines field

/-- A report shows its fields in their order, each on the lines that it is printed on, and no other
lines. -/
def ShowsFields (report : Report) : Prop :=
  ∃ blocks, List.Forall₂ Printed report.fields blocks ∧ Text.lines report.text = blocks.flatten

/-- No text of a report that is printed as it is has a line break. -/
def Unbroken (report : Report) : Prop :=
  ∀ field ∈ report.fields, ∀ text, PrintsRaw field text → OneLine text

/-- The reports that can be put together. -/
inductive Built : Report → Prop
  | empty : Built empty
  | outcome {document : Json} (ordered : document.Ordered) : Built (ofOutcome document)
  | insert {report : Report} {name : String} {value : Json} (built : Built report) :
      Built (report.insert name value)

theorem Built.sorted (built : report.Built) : Members.Sorted report.fields := by
  induction built with
  | empty => exact List.Pairwise.nil
  | @outcome document ordered =>
      cases document with
      | object members => exact ordered.sorted
      | _ => exact Members.Sorted.insert List.Pairwise.nil
  | insert _ ih => exact ih.insert

theorem showsFields_iff : report.ShowsFields ↔
    Text.lines report.text = report.fields.flatMap fieldLines := by
  simp [ShowsFields, forall₂_printed_iff, List.flatMap]

theorem lines_filled (fields : List (String × Json)) :
    ∀ line ∈ fields.flatMap fieldLines, line ≠ "" := by
  rw [List.forall_mem_flatMap]
  exact fun field _ => (printed_fieldLines field).ne_empty

theorem unbroken_iff : report.Unbroken ↔
    ∀ line ∈ report.fields.flatMap fieldLines, OneLine line := by
  rw [List.forall_mem_flatMap]
  exact forall₂_congr fun field _ => (printed_fieldLines field).oneLine_iff.symm

/-- Each break in a text that is printed as it is makes a line more than the fields have. -/
theorem length_lines_text (report : Report) :
    (Text.lines report.text).length = (report.fields.map fun field => height field.2).sum +
      ((report.fields.flatMap fieldLines).map fun line => line.toList.count '\n').sum := by
  rw [text, Text.length_lines_join (lines_filled report.fields), List.length_flatMap]
  congr 2
  apply List.map_congr_left
  exact fun field _ => (printed_fieldLines field).length_eq

theorem length_lines_text_iff :
    (Text.lines report.text).length = (report.fields.map fun field => height field.2).sum ↔
      report.Unbroken := by
  rw [length_lines_text, Nat.add_eq_left, List.sum_eq_zero_iff_forall_eq_nat, List.forall_mem_map,
    unbroken_iff]
  simp only [List.count_eq_zero, OneLine]

/-- The fields of a report are in the order of their names.  The lines of the text are those of the
fields, and their number is told by the form of the report, exactly if there is no line break in the
names and in the strings that are printed as they are. -/
theorem text_shows_fields_iff (built : report.Built) :
    Members.Sorted report.fields ∧ (report.ShowsFields ↔ report.Unbroken) ∧
      ((Text.lines report.text).length = (report.fields.map fun field => height field.2).sum ↔
        report.Unbroken) := by
  refine ⟨built.sorted, ?_, length_lines_text_iff⟩
  rw [showsFields_iff]
  constructor
  · intro shows
    rw [← length_lines_text_iff, shows, List.length_flatMap]
    congr 1
    apply List.map_congr_left
    exact fun field _ => (printed_fieldLines field).length_eq
  · intro unbroken
    exact Text.lines_join (lines_filled report.fields) (unbroken_iff.mp unbroken)

/-- A report with a missing value, a list and an empty list. -/
def removalReport : Report :=
  ofOutcome (.object [("scopeId", .null), ("steps", .array [.string "disable", .string "omit"]),
    ("uris", .array [])])

theorem text_shows_fields_iff_sample :
    removalReport.Built ∧ removalReport.ShowsFields ∧
      (Text.lines removalReport.text).length = 5 := by
  have built : removalReport.Built := .outcome (by decide)
  have unbroken : removalReport.Unbroken := unbroken_iff.mpr (by decide)
  obtain ⟨-, shows_iff, length_iff⟩ := text_shows_fields_iff built
  exact ⟨built, shows_iff.mpr unbroken, length_iff.mpr unbroken⟩

/-- A name with a line break makes a line that reads like another field. -/
theorem text_breaks_within_value :
    let report := ofOutcome (.object [("displayName", .string "Payroll\nitemId: 111")])
    report.Built ∧ report.fields.length = 1 ∧
      Text.lines report.text = ["displayName: Payroll", "itemId: 111"] ∧
      ¬report.ShowsFields := by
  intro report
  refine ⟨.outcome (by decide), rfl, by decide, ?_⟩
  rw [showsFields_iff]
  decide

end Report

end Provision
