import ReportCharts.Options

/-!
Presets: the charts that the dashboard draws, each a bundle of display options.

`DashboardChart` is the closed set; the registered presets are its members, with those titled by the
caller left untitled.
-/

namespace ReportCharts

inductive ColorScheme where
  | perCategory
  | perSeries
  deriving DecidableEq

def ColorScheme.name : ColorScheme → String
  | .perCategory => "perCategory"
  | .perSeries => "perSeries"

structure Preset where
  name : String
  description : String
  kind : ChartKind
  /-- Replaces the label of a report with one series. -/
  datasetLabel : Option String
  colors : ColorScheme
  options : Options
  deriving DecidableEq

def Preset.withOverrides (preset : Preset) (overrides : Overrides) : Preset :=
  { preset with options := overrides.applyTo preset.options }

inductive Subject where
  | crash
  | mce
  deriving DecidableEq

namespace Subject

def noun : Subject → String
  | .crash => "Crash"
  | .mce => "MCE"

def slug : Subject → String
  | .crash => "crash"
  | .mce => "mce"

end Subject

def buildBarThickness : UInt32 := 15

def weekBarThickness : UInt32 := 30

def titleFontSize : UInt32 := 18

/-- The crash page has a smaller heading than the other. -/
def Subject.countTitleFontSize : Subject → UInt32
  | .crash => 15
  | .mce => titleFontSize

inductive DashboardChart where
  | buildsPerRecord
  | classification (subject : Subject)
  | countPerBuild (subject : Subject)
  | population (title : String)
  | stats (title : String)
  | thermalByWeek
  | weeklyBreakdown
  deriving DecidableEq

namespace DashboardChart

def name : DashboardChart → String
  | .buildsPerRecord => "builds"
  | .classification subject => subject.slug ++ "-classification"
  | .countPerBuild subject => subject.slug ++ "-reports"
  | .population _ => "population"
  | .stats _ => "stats"
  | .thermalByWeek => "thermal"
  | .weeklyBreakdown => "mce-weekly"

end DashboardChart

namespace Preset

def buildsPerRecord : Preset where
  name := DashboardChart.buildsPerRecord.name
  description := "Number of records received for each build"
  kind := .bar
  datasetLabel := some "Records per Build"
  colors := .perSeries
  options := {
    title := some "Records per Build"
    showTitle := true
    titleFontSize := some ReportCharts.titleFontSize
    showLegend := false
    barThickness := some buildBarThickness
    yAxisLabel := some "Records"
    xAxisLabel := some "Builds"
    beginYAtZero := true }

def classification (subject : Subject) : Preset where
  name := (DashboardChart.classification subject).name
  description := subject.noun ++ " reports grouped by classification"
  kind := .pie
  datasetLabel := some (subject.noun ++ " reports by classification")
  colors := .perCategory
  options := {
    title := some (subject.noun ++ " reports by classification")
    showTitle := true
    titleFontSize := some ReportCharts.titleFontSize
    legendPosition := some .right }

def countPerBuild (subject : Subject) : Preset where
  name := (DashboardChart.countPerBuild subject).name
  description := subject.noun ++ " reports received for each build"
  kind := .bar
  datasetLabel := some (subject.noun ++ " reports by build")
  colors := .perSeries
  options := {
    title := some (subject.noun ++ " reports by build")
    showTitle := true
    titleFontSize := some subject.countTitleFontSize
    showLegend := false
    barThickness := some buildBarThickness
    yAxisLabel := some (subject.noun ++ " count")
    xAxisLabel := some "Builds"
    beginYAtZero := true }

def population (title : Option String) : Preset where
  name := "population"
  description := "Internal and external machines reporting per build"
  kind := .bar
  datasetLabel := none
  colors := .perSeries
  options := {
    title := title
    showTitle := true
    titleFontSize := some ReportCharts.titleFontSize
    legendPosition := some .right
    stacked := true
    barThickness := some buildBarThickness
    yAxisLabel := some "Machines"
    xAxisLabel := some "Builds"
    responsive := some true }

def stats (title : Option String) : Preset where
  name := "stats"
  description := "Distribution of records over a single column"
  kind := .pie
  datasetLabel := title
  colors := .perCategory
  options := {
    title := title
    showTitle := true
    titleFontSize := some ReportCharts.titleFontSize
    showLegend := false }

def thermalByWeek : Preset where
  name := DashboardChart.thermalByWeek.name
  description := "Thermal records per week"
  kind := .bar
  datasetLabel := none
  colors := .perSeries
  options := {
    legendPosition := some .right
    barThickness := some weekBarThickness
    beginYAtZero := true }

def weeklyBreakdown : Preset where
  name := DashboardChart.weeklyBreakdown.name
  description := "MCE records of one class per week"
  kind := .bar
  datasetLabel := none
  colors := .perSeries
  options := {
    legendPosition := some .right
    barThickness := some weekBarThickness }

def registry : List Preset :=
  [buildsPerRecord, classification .crash, classification .mce, countPerBuild .crash,
    countPerBuild .mce, population none, stats none, thermalByWeek, weeklyBreakdown]

def names : List String := registry.map Preset.name

def find? (name : String) : Option Preset := registry.find? fun preset => preset.name == name

end Preset

/-- The preset of a dashboard chart, titled by the caller where it takes a title. -/
def DashboardChart.preset : DashboardChart → Preset
  | .buildsPerRecord => Preset.buildsPerRecord
  | .classification subject => Preset.classification subject
  | .countPerBuild subject => Preset.countPerBuild subject
  | .population title => Preset.population (some title)
  | .stats title => Preset.stats (some title)
  | .thermalByWeek => Preset.thermalByWeek
  | .weeklyBreakdown => Preset.weeklyBreakdown

theorem Preset.find?_mem {name : String} {preset : Preset} (found : find? name = some preset) :
    preset ∈ registry ∧ preset.name = name := by
  refine ⟨List.mem_of_find?_eq_some found, ?_⟩
  simpa using List.find?_some found

theorem Preset.find?_eq_none_iff {name : String} : find? name = none ↔ name ∉ names := by
  simp [find?, names, List.find?_eq_none]

theorem Preset.exists_find?_of_mem_names {name : String} (registered : name ∈ names) :
    ∃ preset, find? name = some preset := by
  cases found : find? name with
  | none => exact absurd registered (find?_eq_none_iff.mp found)
  | some preset => exact ⟨preset, rfl⟩

end ReportCharts
