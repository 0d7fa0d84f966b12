import ReportCharts.Binary64

/-!
Chart configurations as the charting library takes them.

A setting that is `none` is left to the library's own default.
-/

namespace ReportCharts

inductive ChartKind where
  | bar
  | pie
  deriving DecidableEq

def ChartKind.name : ChartKind → String
  | .bar => "bar"
  | .pie => "pie"

inductive LegendPosition where
  | top
  | bottom
  | left
  | right
  deriving DecidableEq

def LegendPosition.name : LegendPosition → String
  | .top => "top"
  | .bottom => "bottom"
  | .left => "left"
  | .right => "right"

def LegendPosition.ofName? (name : String) : Option LegendPosition :=
  [top, bottom, left, right].find? fun position => position.name = name

namespace Chart

/-- One colour for a whole dataset, or one per category. -/
inductive Fill where
  | single (color : String)
  | perCategory (colors : List String)
  deriving DecidableEq

structure Dataset where
  label : String
  fill : Option Fill
  values : List Binary64
  deriving DecidableEq

structure Data where
  labels : List String
  datasets : List Dataset
  deriving DecidableEq

structure Legend where
  display : Option Bool
  position : Option LegendPosition
  deriving DecidableEq

structure Title where
  display : Bool
  text : Option String
  fontSize : Option UInt32
  deriving DecidableEq

structure AxisLabel where
  display : Bool
  text : String
  fontSize : UInt32
  fontStyle : String
  deriving DecidableEq

def AxisLabel.italic (text : String) : AxisLabel := ⟨true, text, 15, "italic"⟩

structure Ticks where
  beginAtZero : Bool
  deriving DecidableEq

structure Axis where
  stacked : Option Bool
  label : Option AxisLabel
  barThickness : Option UInt32
  ticks : Option Ticks
  deriving DecidableEq

namespace Axis

def plain : Axis := ⟨none, none, none, none⟩

def isPlain (axis : Axis) : Bool := axis == plain

def beginsAtZero (axis : Axis) : Bool := axis.ticks.any Ticks.beginAtZero

@[simp]
theorem isPlain_iff {axis : Axis} : axis.isPlain = true ↔ axis = plain := by
  simp [isPlain]

end Axis

structure Scales where
  x : List Axis
  y : List Axis
  deriving DecidableEq

structure Display where
  legend : Option Legend
  title : Option Title
  responsive : Option Bool
  scales : Option Scales
  deriving DecidableEq

end Chart

structure Chart where
  kind : ChartKind
  data : Chart.Data
  display : Chart.Display
  deriving DecidableEq

namespace Chart

def datasetCount (chart : Chart) : Nat := chart.data.datasets.length

def legendDisplayed (chart : Chart) : Bool :=
  (chart.display.legend.bind Legend.display).getD true

def xAxis? (chart : Chart) : Option Axis := chart.display.scales.bind fun scales => scales.x.head?

def yAxis? (chart : Chart) : Option Axis := chart.display.scales.bind fun scales => scales.y.head?

end Chart

end ReportCharts
