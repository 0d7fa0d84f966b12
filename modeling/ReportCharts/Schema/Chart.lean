import ReportCharts.Chart
import ReportCharts.Json.Record

/-!
Chart configurations as JSON, in the form that the charting library takes.
-/

namespace ReportCharts

open Json

def ChartKind.shape : Shape ChartKind := .named name [.bar, .pie]

def LegendPosition.shape : Shape LegendPosition := .named name [.top, .bottom, .left, .right]

namespace Chart

namespace Fill

def write : Fill → Value
  | .single color => .string color
  | .perCategory colors => (Shape.list .string).write colors

def ofDocument? (room : Nat) : Document → Option Fill
  | .string (.ok color) => some (.single color)
  | document => ((Shape.list .string).read room document).toOption.map .perCategory

/-- A text is one colour, a list of texts one per category. -/
def shape : Shape Fill where
  write := write
  read room document := do
    document.check room
    match ofDocument? room document with
    | some fill => return fill
    | none => throw (.noVariant "BackgroundColor")

end Fill

namespace Dataset

def record : Record Dataset Dataset :=
  Record.start Dataset.mk
    |>.required "label" label .string
    |>.omittable "backgroundColor" fill Fill.shape false
    |>.required "data" values (.list .double)

def shape : Shape Dataset := record.shape "Dataset"

end Dataset

namespace Data

def record : Record Data Data :=
  Record.start Data.mk
    |>.required "labels" labels (.list .string)
    |>.required "datasets" datasets (.list Dataset.shape)

def shape : Shape Data := record.shape "ChartData"

end Data

namespace Legend

def record : Record Legend Legend :=
  Record.start Legend.mk
    |>.omittable "display" display .bool false
    |>.omittable "position" position LegendPosition.shape false

def shape : Shape Legend := record.shape "LegendConfig"

end Legend

namespace Title

def record : Record Title Title :=
  Record.start Title.mk
    |>.required "display" display .bool
    |>.omittable "text" text .string false
    |>.omittable "fontSize" fontSize .uint32 false

def shape : Shape Title := record.shape "TitleConfig"

end Title

namespace AxisLabel

def record : Record AxisLabel AxisLabel :=
  Record.start AxisLabel.mk
    |>.required "display" display .bool
    |>.required "labelString" text .string
    |>.required "fontSize" fontSize .uint32
    |>.required "fontStyle" fontStyle .string

def shape : Shape AxisLabel := record.shape "ScaleLabel"

end AxisLabel

namespace Ticks

def record : Record Ticks Ticks :=
  Record.start Ticks.mk
    |>.required "beginAtZero" beginAtZero .bool

def shape : Shape Ticks := record.shape "TicksConfig"

end Ticks

namespace Axis

def record : Record Axis Axis :=
  Record.start Axis.mk
    |>.omittable "stacked" stacked .bool false
    |>.omittable "scaleLabel" label AxisLabel.shape false
    |>.omittable "barThickness" barThickness .uint32 false
    |>.omittable "ticks" ticks Ticks.shape false

def shape : Shape Axis := record.shape "AxisConfig"

end Axis

namespace Scales

def record : Record Scales Scales :=
  Record.start Scales.mk
    |>.required "xAxes" x (.list Axis.shape)
    |>.required "yAxes" y (.list Axis.shape)

def shape : Shape Scales := record.shape "ScalesConfig"

end Scales

namespace Display

def record : Record Display Display :=
  Record.start Display.mk
    |>.omittable "legend" legend Legend.shape false
    |>.omittable "title" title Title.shape false
    |>.omittable "responsive" responsive .bool false
    |>.omittable "scales" scales Scales.shape false

def shape : Shape Display := record.shape "ChartOptionsConfig"

end Display

def record : Record Chart Chart :=
  Record.start Chart.mk
    |>.required "type" kind ChartKind.shape
    |>.required "data" data Data.shape
    |>.required "options" display Display.shape

def shape : Shape Chart := record.shape "ChartConfig"

end Chart

end ReportCharts
