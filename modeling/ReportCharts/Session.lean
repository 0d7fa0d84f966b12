import ReportCharts.OverrideText
import ReportCharts.Rendering
import ReportCharts.Schema.Weekly

/-!
Sessions: a sequence of commands on one override, one preset, one report and one drawer.

A command that fails changes nothing, except that a drawer out of order keeps in mind what it was
asked to draw.
-/

namespace ReportCharts

/-- A drawer that remembers what it was asked to draw and what it has drawn. -/
structure Drawer where
  asked : List Chart
  drawn : List Chart
  /-- The message with which it fails while it is out of order. -/
  failure : Option String

def Drawer.draw (drawer : Drawer) (chart : Chart) : Except SettingsFault Unit × Drawer :=
  let asked := { drawer with asked := drawer.asked ++ [chart] }
  match drawer.failure with
  | some message => (.error (.chart (.interop message)), asked)
  | none => (.ok (), { asked with drawn := drawer.drawn ++ [chart] })

structure Session where
  words : Overrides.Wording
  overrides : Option Overrides
  preset : Preset
  report : Report
  drawer : Drawer

namespace Session

def start (words : Overrides.Wording) : Session :=
  ⟨words, none, Preset.buildsPerRecord, Report.empty, ⟨[], [], none⟩⟩

inductive Source where
  | given (report : Report)
  | single (label : String) (labels : List String) (values : List Binary64)
  | table (rows : List (List Cell)) (mode : Strictness)
  | tableText (text : String) (mode : Strictness)
  | weeks (name : String) (counts : List (String × Binary64))
  | population (labels : List String) (internal external : List Binary64)
  | empty

def Source.report : Source → Except ChartFault Report
  | .given report => .ok report
  | .single label labels values => .ok (.single label labels values)
  | .table rows mode => Report.ofWeeklyTable rows mode
  | .tableText text mode => Report.ofWeeklyText text mode
  | .weeks name counts => .ok (.ofWeeks name counts)
  | .population labels internal external => .ok (.population labels internal external)
  | .empty => .ok .empty

inductive Command where
  /-- Put partial options in force as they are, or none. -/
  | given (overrides : Option Overrides)
  | overrides (text format : Option String)
  | apply (name : String)
  | find (name : String)
  | withOverrides
  | choose (chart : DashboardChart)
  | report (source : Source)
  | build
  | render (mode : Strictness)
  | renderWith (options : Options) (mode : Strictness)
  | fail (message : Option String)

inductive Answer where
  | overrides (overrides : Option Overrides)
  | preset (preset : Preset)
  | found (found : Bool) (name : String)
  | options (options : Options)
  | name (name : String)
  | report (report : Report)
  | chart (chart : Chart)
  | drawn (charts : List Chart) (total : Nat)
  | done

structure Step where
  answer : Except SettingsFault Answer
  logs : List Log.Line
  next : Session

/-- A step without log lines; a failed one keeps the session. -/
def silent (session : Session) (result : Except SettingsFault (Answer × Session)) : Step :=
  match result with
  | .ok (answer, next) => ⟨.ok answer, [], next⟩
  | .error fault => ⟨.error fault, [], session⟩

/-- Render the report with a preset and answer what was drawn by that. -/
def renderWith (session : Session) (preset : Preset) (mode : Strictness) : Step :=
  let rendered := preset.render Drawer.draw session.drawer session.report mode
  let drawn := rendered.drawer.drawn
  ⟨rendered.outcome.map fun () =>
      .drawn (drawn.drop session.drawer.drawn.length) drawn.length,
    rendered.logs, { session with drawer := rendered.drawer }⟩

/-- Read the overrides of a command; the format of no text is not looked at. -/
def readOverrides (words : Overrides.Wording) (format : Option String) :
    Option String → Except SettingsFault (Option Overrides)
  | none => .ok none
  | some text => (Overrides.ofNamedText words format text).map some

def step (session : Session) : Command → Step
  | .given overrides =>
      session.silent (.ok (.overrides overrides, { session with overrides := overrides }))
  | .overrides text format => session.silent <| do
      let overrides ← readOverrides session.words format text
      return (.overrides overrides, { session with overrides := overrides })
  | .apply name => session.silent <| do
      let preset ← Preset.resolve name session.overrides
      return (.preset preset, { session with preset := preset })
  | .find name => session.silent <| .ok <|
      match Preset.find? name with
      | some preset => (.found true preset.name, { session with preset := preset })
      | none => (.found false session.preset.name, session)
  | .withOverrides => session.silent <| .ok <|
      let preset := session.preset.withOverrides (session.overrides.getD .unset)
      (.options preset.options, { session with preset := preset })
  | .choose chart =>
      session.silent (.ok (.name chart.name, { session with preset := chart.preset }))
  | .report source => session.silent <| do
      let report ← source.report.mapError .chart
      return (.report report, { session with report := report })
  | .build => session.silent (.ok (.chart (session.preset.chart session.report), session))
  | .render mode => session.renderWith session.preset mode
  | .renderWith options mode => session.renderWith (session.preset.withOptions options) mode
  | .fail message => session.silent <|
      .ok (.done, { session with drawer := { session.drawer with failure := message } })

def run (session : Session) : List Command → List Step
  | [] => []
  | command :: rest =>
      let step := session.step command
      step :: run step.next rest

end Session

end ReportCharts
