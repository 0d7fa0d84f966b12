import ReportCharts.Chart

/-!
Display options of a chart, and partial options layered over them.

A layered option replaces the one below it when it is given and leaves it alone when it is not.
-/

namespace ReportCharts

structure Options where
  title : Option String := none
  showTitle : Bool := false
  titleFontSize : Option UInt32 := none
  showLegend : Bool := true
  legendPosition : Option LegendPosition := none
  stacked : Bool := false
  barThickness : Option UInt32 := none
  yAxisLabel : Option String := none
  xAxisLabel : Option String := none
  beginYAtZero : Bool := false
  responsive : Option Bool := none
  deriving DecidableEq

/-- Partial options; what is `none` is not given. -/
structure Overrides where
  title : Option String := none
  showTitle : Option Bool := none
  titleFontSize : Option UInt32 := none
  showLegend : Option Bool := none
  legendPosition : Option LegendPosition := none
  stacked : Option Bool := none
  barThickness : Option UInt32 := none
  yAxisLabel : Option String := none
  xAxisLabel : Option String := none
  beginYAtZero : Option Bool := none
  responsive : Option Bool := none
  deriving DecidableEq

namespace Overrides

def applyTo (overrides : Overrides) (base : Options) : Options where
  title := overrides.title <|> base.title
  showTitle := overrides.showTitle.getD base.showTitle
  titleFontSize := overrides.titleFontSize <|> base.titleFontSize
  showLegend := overrides.showLegend.getD base.showLegend
  legendPosition := overrides.legendPosition <|> base.legendPosition
  stacked := overrides.stacked.getD base.stacked
  barThickness := overrides.barThickness <|> base.barThickness
  yAxisLabel := overrides.yAxisLabel <|> base.yAxisLabel
  xAxisLabel := overrides.xAxisLabel <|> base.xAxisLabel
  beginYAtZero := overrides.beginYAtZero.getD base.beginYAtZero
  responsive := overrides.responsive <|> base.responsive

/-- Layer a list of partial options in order, the last on top. -/
def applyAll (layers : List Overrides) (base : Options) : Options :=
  layers.foldl (fun options overrides => overrides.applyTo options) base

def unset : Overrides := {}

theorem applyAll_cons (first : Overrides) (rest : List Overrides) (base : Options) :
    applyAll (first :: rest) base = applyAll rest (first.applyTo base) := rfl

theorem applyAll_append (below above : List Overrides) (base : Options) :
    applyAll (below ++ above) base = applyAll above (applyAll below base) := by
  simp [applyAll, List.foldl_append]

end Overrides

end ReportCharts
