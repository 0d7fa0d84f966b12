import ReportCharts.Cell
import ReportCharts.Json.Record
import ReportCharts.Report

/-!
Reports and table cells as JSON.
-/

namespace ReportCharts

open Json

namespace Cell

/-- A cell is whatever scalar stands for it; null is an empty cell. -/
def write : Cell → Value
  | .number value => .number (.float value)
  | .text content => .string content
  | .empty => .null

def ofDocument? : Document → Option Cell
  | .null => some .empty
  | .number (.ok value) => some (.number value.toBinary64)
  | .string (.ok value) => some (.text value)
  | _ => none

def shape : Shape Cell where
  write := write
  read room document := do
    document.check room
    match ofDocument? document with
    | some cell => return cell
    | none => throw (.noVariant "TableCell")

def tableShape : Shape (List (List Cell)) := .list (.list shape)

end Cell

namespace Series

def record : Record Series Series :=
  Record.start Series.mk
    |>.required "label" label .string
    |>.required "values" values (.list .double)
    |>.omittable "color" color .string true

def shape : Shape Series := record.shape "Series"

end Series

namespace Report

def record : Record Report Report :=
  Record.start Report.mk
    |>.required "labels" labels (.list .string)
    |>.required "series" series (.list Series.shape)

def shape : Shape Report := record.shape "Report"

end Report

def Strictness.name : Strictness → String
  | .permissive => "permissive"
  | .strict => "strict"

def Strictness.shape : Shape Strictness := .named name [.permissive, .strict]

end ReportCharts
