import ReportCharts.Preset
import ReportCharts.Schema.Chart

/-!
Display options, partial options and presets as JSON.

Options that are not set are written as null, partial options that are not given are left out.
-/

namespace ReportCharts

open Json

namespace Options

def record : Record Options Options :=
  Record.start Options.mk
    |>.nullable "title" title .string
    |>.required "showTitle" showTitle .bool
    |>.nullable "titleFontSize" titleFontSize .uint32
    |>.required "showLegend" showLegend .bool
    |>.nullable "legendPosition" legendPosition LegendPosition.shape
    |>.required "stacked" stacked .bool
    |>.nullable "barThickness" barThickness .uint32
    |>.nullable "yAxisLabel" yAxisLabel .string
    |>.nullable "xAxisLabel" xAxisLabel .string
    |>.required "beginYAtZero" beginYAtZero .bool
    |>.nullable "responsive" responsive .bool

def shape : Shape Options := record.shape "ChartOptions"

end Options

namespace Overrides

def record : Record Overrides Overrides :=
  Record.start Overrides.mk
    |>.omittable "title" title .string true
    |>.omittable "showTitle" showTitle .bool true
    |>.omittable "titleFontSize" titleFontSize .uint32 true
    |>.omittable "showLegend" showLegend .bool true
    |>.omittable "legendPosition" legendPosition LegendPosition.shape true
    |>.omittable "stacked" stacked .bool true
    |>.omittable "barThickness" barThickness .uint32 true
    |>.omittable "yAxisLabel" yAxisLabel .string true
    |>.omittable "xAxisLabel" xAxisLabel .string true
    |>.omittable "beginYAtZero" beginYAtZero .bool true
    |>.omittable "responsive" responsive .bool true

def shape : Shape Overrides := record.shape "ChartOptionsOverride"

end Overrides

def ColorScheme.shape : Shape ColorScheme := .named name [.perCategory, .perSeries]

def Subject.shape : Shape Subject := .named slug [.crash, .mce]

namespace Preset

def record : Record Preset Preset :=
  Record.start Preset.mk
    |>.required "name" name .string
    |>.required "description" description .string
    |>.required "kind" kind ChartKind.shape
    |>.nullable "dataset_label" datasetLabel .string
    |>.required "color_scheme" colors ColorScheme.shape
    |>.required "options" options Options.shape

def shape : Shape Preset := record.shape "ChartPreset"

end Preset

end ReportCharts
