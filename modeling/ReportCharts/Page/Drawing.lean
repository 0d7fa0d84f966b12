import ReportCharts.OverrideText
import ReportCharts.Page.HostValue
import ReportCharts.Rendering
import ReportCharts.Schema.Chart
import ReportCharts.Schema.Envelope
import ReportCharts.Weekly

/-!
The page's drawing calls: one per chart of the dashboard, and one for any preset by name.

A call reads its arguments, prepares a chart and hands it to the charting library. Whatever fails
on the way is logged once and thrown as the text of an envelope.
-/

namespace ReportCharts

def Chart.object (chart : Chart) : Page.HostValue := .ofJson (shape.write chart)

namespace Page

inductive DrawingCall where
  | builds (labels values : HostValue)
  | crashStats (labels values : HostValue)
  | crashReports (labels values : HostValue)
  | mceClass (labels values : HostValue)
  | mceReports (labels values : HostValue)
  | machinesPerBuild (title : String) (labels internal external : HostValue)
  | stats (title : String) (labels values : HostValue)
  | thermal (table : HostValue)
  | weeklyBreakdown (name : String) (weeks : HostValue)
  | preset (name : String) (report : HostValue) (overrides format : Option String)
      (strict : Bool)

namespace DrawingCall

def name : DrawingCall → String
  | .builds .. => "renderBuilds"
  | .crashStats .. => "renderCrashStats"
  | .crashReports .. => "renderCrashReports"
  | .mceClass .. => "renderMCEClass"
  | .mceReports .. => "renderMCEReports"
  | .machinesPerBuild .. => "renderMachinesPerBuild"
  | .stats .. => "renderStats"
  | .thermal .. => "renderThermal"
  | .weeklyBreakdown .. => "renderWeeklyBreakdown"
  | .preset .. => "renderPreset"

def metadata : DrawingCall → Json.Value
  | .preset name _ _ _ strict => .object [("preset", .string name), ("strict", .bool strict)]
  | _ => .null

end DrawingCall

/-- What the readers of override texts and of values say of what they refuse. -/
structure Wording where
  texts : Overrides.Wording
  /-- Said of a value that is there in place of what was wanted. -/
  value : String → HostValue → String
  deriving Inhabited

variable (words : Wording)

def wanting {α : Type} (wanted : String) (read : HostValue → Option α) (value : HostValue) :
    Except ChartFault α :=
  match read value with
  | some result => .ok result
  | none => .error (.invalidFormat wanted (words.value wanted value))

variable {words} in
theorem wanting_eq_ok_iff {α : Type} {wanted : String} {read : HostValue → Option α}
    {value : HostValue} {result : α} :
    wanting words wanted read value = .ok result ↔ read value = some result := by
  unfold wanting
  cases read value <;> simp

theorem mapError_eq_ok_iff {ε δ α : Type} {change : ε → δ} {computation : Except ε α} {value : α} :
    computation.mapError change = .ok value ↔ computation = .ok value := by
  cases computation with
  | error fault => exact ⟨nofun, nofun⟩
  | ok found =>
    show (Except.ok found : Except δ α) = .ok value ↔ (Except.ok found : Except ε α) = .ok value
    rw [Except.ok.injEq, Except.ok.injEq]

/-- The counts of a breakdown by week, up to the first that is not a number. -/
def countEntries : List (String × HostValue) → Except ChartFault (List (String × Binary64))
  | [] => .ok []
  | (week, value) :: rest =>
      match value.number? with
      | some count => return (week, count) :: (← countEntries rest)
      | none => .error (.dataParse ("count for week " ++ week ++ " is not a number"))

def weeklyCounts (weeks : HostValue) : Except ChartFault (List (String × Binary64)) :=
  match weeks.entries? with
  | some entries => countEntries entries
  | none => .error (.invalidFormat "an object of weekly counts" weeks.shown)

namespace DrawingCall

structure Plan where
  preset : Preset
  report : Report
  mode : Strictness

/-- The plan of a chart of the dashboard, which is drawn whatever its report looks like. -/
def planOf (chart : DashboardChart) (report : Report) : Plan :=
  ⟨chart.preset, report, .permissive⟩

def singlePlan (chart : DashboardChart) (labels values : HostValue) :
    Except ChartFault Plan := do
  let labels ← wanting words "an array of labels" HostValue.strings? labels
  let values ← wanting words "an array of numbers" HostValue.numbers? values
  return planOf chart (.single chart.name labels values)

def plan : DrawingCall → Except ChartFault Plan
  | .builds labels values => singlePlan words .buildsPerRecord labels values
  | .crashStats labels values => singlePlan words (.classification .crash) labels values
  | .crashReports labels values => singlePlan words (.countPerBuild .crash) labels values
  | .mceClass labels values => singlePlan words (.classification .mce) labels values
  | .mceReports labels values => singlePlan words (.countPerBuild .mce) labels values
  | .machinesPerBuild title labels internal external => do
      let labels ← wanting words "an array of builds" HostValue.strings? labels
      let internal ← wanting words "an array of machine counts" HostValue.numbers? internal
      let external ← wanting words "an array of machine counts" HostValue.numbers? external
      return planOf (.population title) (.population labels internal external)
  | .stats title labels values => singlePlan words (.stats title) labels values
  | .thermal table => do
      let table ← wanting words "an array of table rows" HostValue.table? table
      return planOf .thermalByWeek (← Report.ofWeeklyTable table .permissive)
  | .weeklyBreakdown name weeks => do
      return planOf .weeklyBreakdown (.ofWeeks name (← weeklyCounts weeks))
  | .preset name report overrides format strict => do
      let report ← wanting words "a report object" HostValue.report? report
      let overrides ← (overrides.mapM (Overrides.ofNamedText words.texts format)).mapError
        SettingsFault.toChartFault
      let preset ← (Preset.resolve name overrides).mapError SettingsFault.toChartFault
      return ⟨preset, report, if strict then .strict else .permissive⟩

end DrawingCall

structure Handed where
  target : HostValue
  chart : Chart

def Handed.config (handed : Handed) : HostValue := handed.chart.object

/-- Where a page draws, the text that the charting library throws, if any, and what it was handed. -/
structure Canvas where
  target : HostValue
  refusal : Option String
  handed : List Handed

def constructionFault (refusal : String) : ChartFault :=
  .interop ("Chart construction failed: " ++ (HostValue.string refusal).shown)

/-- Hand a chart to the charting library, which accepts every chart unless it is out of order. -/
def Canvas.draw (canvas : Canvas) (chart : Chart) : Except SettingsFault Unit × Canvas :=
  let after := { canvas with handed := canvas.handed ++ [⟨canvas.target, chart⟩] }
  match canvas.refusal with
  | none => (.ok (), after)
  | some refusal => (.error (.chart (constructionFault refusal)), after)

structure Drawn where
  outcome : Except String Unit
  logs : List Log.Line
  handed : List Handed

def DrawingCall.envelope (call : DrawingCall) (clock : UInt64) (fault : ChartFault) : Envelope :=
  ((Envelope.of fault clock).withContext "ChartAdapter" call.name).withMetadata call.metadata

def DrawingCall.fail (call : DrawingCall) (clock : UInt64) (logs : List Log.Line)
    (handed : List Handed) (fault : ChartFault) : Drawn where
  outcome := .error (call.envelope clock fault).toJson
  logs := logs ++ [⟨.error, call.name ++ " failed: " ++ fault.message⟩]
  handed := handed

/-- Carry out a drawing call at a time of the clock; `refusal` is what the library throws. -/
def DrawingCall.run (call : DrawingCall) (target : HostValue) (refusal : Option String)
    (clock : UInt64) : Drawn :=
  match call.plan words with
  | .error fault => call.fail clock [] [] fault
  | .ok plan =>
      let rendered :=
        plan.preset.render Canvas.draw ⟨target, refusal, []⟩ plan.report plan.mode
      match rendered.outcome with
      | .ok () => ⟨.ok (), rendered.logs, rendered.drawer.handed⟩
      | .error fault => call.fail clock rendered.logs rendered.drawer.handed fault.toChartFault

end Page

end ReportCharts
