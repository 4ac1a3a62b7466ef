import AbcMetric.Report.Table
import AbcMetric.Report.Document

/-!
# Output formats

A report is written as text or as JSON. Formats have names, read without regard to case; only the
letters of ASCII have to be folded, because no other character has a lower-case form spelled with
the letters of a format's name.

* `Report.render` is the report in a format.
* `Report.print` refuses JSON for a report on a path that is not text.
-/

namespace AbcMetric

/-- How a report is written. -/
inductive OutputFormat where
  | text
  | json
  deriving DecidableEq, Repr

namespace OutputFormat

/-- The format of a name. -/
def ofName? (name : String) : Option OutputFormat :=
  let folded := String.ofList (name.toList.map Char.toLower)
  if folded = "text" ∨ folded = "txt" ∨ folded = "terminal" then some .text
  else if folded = "json" then some .json
  else none

/-- The name a format is shown by. -/
def name : OutputFormat → String
  | .text => "text"
  | .json => "json"

/-- The message for a name that is no format's. -/
def unknownMessage (name : String) : String :=
  s!"Unknown format '{name}'. Valid formats: text, json"

end OutputFormat

/-- The report in a format; only text has colors. -/
def Report.render (r : Report) (color : Bool) : OutputFormat → String
  | .text => r.text color
  | .json => r.document

/-- Why a report is not written. -/
inductive RenderFault where
  | pathNotText
  deriving DecidableEq, Repr

/-- The wording of a fault. -/
def RenderFault.message : RenderFault → String
  | .pathNotText => "path contains invalid UTF-8 characters"

/-- The report in a format, if it can be written: strings of JSON are text, so all paths have to
be. -/
def Report.print (isText : String → Bool) (r : Report) (color : Bool) (f : OutputFormat) :
    Except RenderFault String :=
  if f = .json ∧ ∃ file ∈ r.files, isText file.path = false then .error .pathNotText
  else .ok (r.render color f)

end AbcMetric
