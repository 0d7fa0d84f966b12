import ReportCharts.Binary64.Numeral
import ReportCharts.Text.Blank
import ReportCharts.Text.Quoted

/-!
Cells of a dashboard table: a count, a text or nothing.

`label` is a cell as the name of a series or category, `count` is a cell as a value to draw.
-/

namespace ReportCharts

inductive Cell where
  | number (value : Binary64)
  | text (content : String)
  | empty
  deriving DecidableEq

namespace Cell

def number? : Cell → Option Binary64
  | .number value => some value
  | _ => none

/-- A number as a label: whole numbers without a point and within the signed 64-bit range. -/
def numberLabel (value : Binary64) : String :=
  match value.toInt? with
  | some whole => toString (Binary64.clamp Binary64.int64Min Binary64.int64Max whole)
  | none => value.plain

def label : Cell → String
  | .number value => numberLabel value
  | .text content => content
  | .empty => ""

/-- A cell as a value: text that spells a number counts as that number, anything else as none. -/
def count : Cell → Binary64
  | .number value => value
  | .text content => (Binary64.ofText? (Text.trim content.toList)).getD .nan
  | .empty => .nan

def shown : Cell → String
  | .number value => "Number(" ++ value.pointed ++ ")"
  | .text content => "Text(" ++ Text.quoted content ++ ")"
  | .empty => "Empty"

@[simp]
theorem count_number (value : Binary64) : (Cell.number value).count = value := rfl

end Cell

end ReportCharts
