import ReportCharts.Schema.Report
import ReportCharts.Weekly

/-!
Weekly tables given as JSON texts.
-/

namespace ReportCharts.Report

/-- Turn the text of a weekly table into a report; a text that is none is a fault of its own. -/
def ofWeeklyText (text : String) (mode : Strictness) : Except ChartFault Report :=
  match Cell.tableShape.ofText text with
  | .ok table => ofWeeklyTable table mode
  | .error fault => .error (.dataParse fault.message)

end ReportCharts.Report
