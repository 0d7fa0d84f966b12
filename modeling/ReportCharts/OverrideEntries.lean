import ReportCharts.Options

/-!
Partial options from named entries of a text, whatever the values of entries are.

Entries of other names are passed over; an option is given at most once.
-/

namespace ReportCharts

/-- How values are read as options; the inner `none` is an option that is not given after all. -/
structure OptionReader (ν : Type) where
  string : ν → Option (Option String)
  bool : ν → Option (Option Bool)
  uint32 : ν → Option (Option UInt32)
  position : ν → Option (Option LegendPosition)

namespace Overrides

def names : List String :=
  ["title", "showTitle", "titleFontSize", "showLegend", "legendPosition", "stacked", "barThickness",
    "yAxisLabel", "xAxisLabel", "beginYAtZero", "responsive"]

def entry? {ν α : Type} (entries : List (String × ν)) (name : String)
    (read : ν → Option (Option α)) : Option (Option α) :=
  match entries.lookup name with
  | some value => read value
  | none => some none

def ofEntries? {ν : Type} (reader : OptionReader ν) (entries : List (String × ν)) :
    Option Overrides := do
  if ((entries.map (·.1)).filter names.contains).Nodup then
    return {
      title := ← entry? entries "title" reader.string
      showTitle := ← entry? entries "showTitle" reader.bool
      titleFontSize := ← entry? entries "titleFontSize" reader.uint32
      showLegend := ← entry? entries "showLegend" reader.bool
      legendPosition := ← entry? entries "legendPosition" reader.position
      stacked := ← entry? entries "stacked" reader.bool
      barThickness := ← entry? entries "barThickness" reader.uint32
      yAxisLabel := ← entry? entries "yAxisLabel" reader.string
      xAxisLabel := ← entry? entries "xAxisLabel" reader.string
      beginYAtZero := ← entry? entries "beginYAtZero" reader.bool
      responsive := ← entry? entries "responsive" reader.bool }
  else none

end Overrides

end ReportCharts
