import Provision.Json.Printer

/-!
# Reports

The outcome of an operation is reported as a list of named values, as text for
people or as JSON for programs.  In the text each value has a line of its own
behind its name, and a list has a line for each element.
-/

namespace Provision

/-- Named values in the order of their names. -/
structure Report where
  fields : List (String × Json)
deriving DecidableEq

namespace Report

/-- The report without any values. -/
def empty : Report := ⟨[]⟩

/-- The report with a further value, or with another one of the same name. -/
def insert (report : Report) (name : String) (value : Json) : Report :=
  ⟨Members.insert name value report.fields⟩

/-- The members of an outcome, or the outcome itself as the only value when it is no object. -/
def ofOutcome : Json → Report
  | .object members => ⟨members⟩
  | outcome => empty.insert "result" outcome

/-- A list of results with their number. -/
def ofList (name : String) (results : List Json) : Report :=
  (empty.insert "count" (.ofNat results.length)).insert name (.array results)

/-- The value with a given name. -/
def get? (report : Report) (name : String) : Option Json := Members.find? name report.fields

/-- A report as a document. -/
def toJson (report : Report) : Json := .object report.fields

/-- A value on a line: texts as they are, a dash for `null`, anything else as JSON. -/
def valueText : Json → String
  | .string text => text
  | .null => "-"
  | value => value.compact

/-- The lines of a named value. -/
def fieldLines : String × Json → List String
  | (name, .array []) => [name ++ ": (none)"]
  | (name, .array (element :: rest)) =>
    (name ++ ":") :: (element :: rest).map fun element => "  - " ++ valueText element
  | (name, value) => [name ++ ": " ++ valueText value]

/-- A report for people. -/
def text (report : Report) : String := Text.join "\n" (report.fields.flatMap fieldLines)

/-- A report for programs. -/
def json (report : Report) : String := report.toJson.pretty

/-- A report as it is printed. -/
def render (report : Report) (asJson : Bool) : String :=
  if asJson then report.json else report.text

end Report

end Provision
