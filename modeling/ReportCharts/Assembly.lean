import ReportCharts.Palette
import ReportCharts.Preset
import ReportCharts.Report

/-!
Assembling a chart from a report.

The data block depends on the report, the kind of colouring and the label alone, the display block
on the options alone.
-/

namespace ReportCharts.Chart

def fillOf (scheme : ColorScheme) (categories index : Nat) (series : Series) : Fill :=
  match scheme with
  | .perCategory => .perCategory (Palette.firstColors categories)
  | .perSeries => .single (series.color.getD (Palette.color index))

/-- A given label replaces the label of a series that stands alone. -/
def labelOf (alone : Bool) (given : Option String) (series : Series) : String :=
  if alone then given.getD series.label else series.label

def dataOf (report : Report) (scheme : ColorScheme) (label : Option String) : Data where
  labels := report.labels
  datasets := report.series.mapIdx fun index series =>
    ⟨labelOf (report.series.length == 1) label series,
      some (fillOf scheme report.labels.length index series), series.values⟩

def xAxisOf (options : Options) : Axis where
  stacked := if options.stacked then some true else none
  label := options.xAxisLabel.map AxisLabel.italic
  barThickness := options.barThickness
  ticks := none

def yAxisOf (options : Options) : Axis where
  stacked := if options.stacked then some true else none
  label := options.yAxisLabel.map AxisLabel.italic
  barThickness := none
  ticks := if options.beginYAtZero then some ⟨true⟩ else none

/-- One axis each way, or none when neither carries a setting. -/
def scalesOf (options : Options) : Option Scales :=
  if (xAxisOf options).isPlain && (yAxisOf options).isPlain then none
  else some ⟨[xAxisOf options], [yAxisOf options]⟩

def displayOf (options : Options) : Display where
  legend := some ⟨some options.showLegend, options.legendPosition⟩
  title := some ⟨options.showTitle, options.title, options.titleFontSize⟩
  responsive := options.responsive
  scales := scalesOf options

def assemble (kind : ChartKind) (report : Report) (options : Options) (scheme : ColorScheme)
    (label : Option String) : Chart where
  kind := kind
  data := dataOf report scheme label
  display := displayOf options

end ReportCharts.Chart

namespace ReportCharts

def Preset.chart (preset : Preset) (report : Report) : Chart :=
  Chart.assemble preset.kind report preset.options preset.colors preset.datasetLabel

end ReportCharts
