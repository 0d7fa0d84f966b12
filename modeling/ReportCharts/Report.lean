import ReportCharts.Binary64
import ReportCharts.ChartFault

/-!
Reports: category labels and the series of values plotted against them.

A report is well formed when every series has one value per label; `firstMismatch?` finds the first
series that has not.
-/

namespace ReportCharts

inductive Strictness where
  | permissive
  | strict
  deriving DecidableEq

structure Series where
  label : String
  values : List Binary64
  color : Option String
  deriving DecidableEq

structure Report where
  labels : List String
  series : List Series
  deriving DecidableEq

namespace Report

def empty : Report := ⟨[], []⟩

def single (label : String) (labels : List String) (values : List Binary64) : Report :=
  ⟨labels, [⟨label, values, none⟩]⟩

/-- Internal machines, then external ones, over the same builds. -/
def population (labels : List String) (internal external : List Binary64) : Report :=
  ⟨labels, [⟨"Internal", internal, none⟩, ⟨"External", external, none⟩]⟩

def isEmpty (report : Report) : Bool := report.labels.isEmpty && report.series.isEmpty

def categoryCount (report : Report) : Nat := report.labels.length

def WellFormed (report : Report) : Prop :=
  ∀ series ∈ report.series, series.values.length = report.labels.length

/-- The first series whose values do not match the labels in number. -/
def firstMismatch? (report : Report) : Option Series :=
  report.series.find? fun series => series.values.length != report.labels.length

def mismatchFault (report : Report) (series : Series) : ChartFault :=
  .malformedReport series.label report.labels.length series.values.length

def checkLengths (report : Report) : Except ChartFault Unit :=
  match report.firstMismatch? with
  | some series => .error (report.mismatchFault series)
  | none => .ok ()

theorem firstMismatch?_eq_none_iff {report : Report} :
    report.firstMismatch? = none ↔ report.WellFormed := by
  simp [firstMismatch?, WellFormed, List.find?_eq_none]

theorem checkLengths_eq_ok_iff {report : Report} :
    report.checkLengths = .ok () ↔ report.WellFormed := by
  rw [← firstMismatch?_eq_none_iff, checkLengths]
  cases report.firstMismatch? <;> simp

end Report

end ReportCharts
