import ReportCharts.Cell
import ReportCharts.Palette
import ReportCharts.Report

/-!
Weekly breakdowns as reports.

A weekly table has a header row of weeks and a value row of counts; the leading cell of the value
row names the one category, and each further cell becomes a series of one value.
-/

namespace ReportCharts

/-- A count cell, or the fault of a strict reading when it is not a number. -/
def Cell.countIn (mode : Strictness) (column : Nat) : Cell → Except ChartFault Binary64
  | .number value => .ok value
  | cell =>
      match mode with
      | .permissive => .ok cell.count
      | .strict =>
          .error (.dataParse ("count in column " ++ toString column ++ " is not numeric: " ++
            cell.shown))

@[simp]
theorem Cell.countIn_permissive (column : Nat) (cell : Cell) :
    cell.countIn .permissive column = .ok cell.count := by
  cases cell <;> rfl

namespace Report

/-- The series of a count cell; `index` counts from the first count. -/
def weekSeries (mode : Strictness) (weeks : List Cell) (index : Nat) (cell : Cell) :
    Except ChartFault Series := do
  let value ← cell.countIn mode (index + 1)
  return ⟨((weeks[index]?).map Cell.label).getD "", [value], some (Palette.color index)⟩

def weekSeriesFrom (mode : Strictness) (weeks : List Cell) :
    (index : Nat) → List Cell → Except ChartFault (List Series)
  | _, [] => .ok []
  | index, cell :: rest => do
      let series ← weekSeries mode weeks index cell
      return series :: (← weekSeriesFrom mode weeks (index + 1) rest)

/-- Turn a weekly table into one series per week; rows after the second are not looked at. -/
def ofWeeklyTable (table : List (List Cell)) (mode : Strictness) : Except ChartFault Report :=
  match table with
  | [] => .ok .empty
  | [_] => .error (.invalidFormat "a header row and a value row" "header row only")
  | _ :: [] :: _ =>
      .error (.invalidFormat "a record type label in the value row" "empty value row")
  | header :: (category :: counts) :: _ => do
      return ⟨[category.label], ← weekSeriesFrom mode (header.drop 1) 0 counts⟩

def ofWeeks (name : String) (weeks : List (String × Binary64)) : Report :=
  ⟨[name], weeks.mapIdx fun index (week, count) =>
    ⟨"Week " ++ week, [count], some (Palette.color index)⟩⟩

end Report

end ReportCharts
