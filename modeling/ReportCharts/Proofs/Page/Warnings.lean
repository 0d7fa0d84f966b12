import ReportCharts.Proofs.Page.Boundary
import ReportCharts.Proofs.Page.WeeklyBreakdown
import ReportCharts.Proofs.Weekly.Tables

/-!
What the calls of the dashboard warn of.

They draw their report whatever it looks like, so a warning is all that comes of lengths that differ: one
for the first series that does not match the labels, and none where all do. Weekly tables and counts by
week become reports that match by the way they are made. The chart that is handed over has the values of
every series as they were given, with a warning or without one.
-/

namespace ReportCharts

def Log.warnings (lines : List Log.Line) : List Log.Line :=
  lines.filter fun line => line.level = .warn

namespace Report

/-- The warning about the first series that does not match the labels, if there is one. -/
def warnings (report : Report) : List Log.Line :=
  (report.firstMismatch?.map fun series => warning (report.mismatchFault series)).toList

theorem screen_permissive (report : Report) : report.screen .permissive = .ok report.warnings := by
  unfold screen checkLengths warnings
  cases report.firstMismatch? <;> rfl

theorem warnings_of_wellFormed {report : Report} (wellFormed : report.WellFormed) :
    report.warnings = [] := by
  rw [warnings, firstMismatch?_eq_none_iff.mpr wellFormed]
  rfl

variable (labels : List String)

theorem warnings_single (label : String) (values : List Binary64) :
    (single label labels values).warnings =
      if values.length = labels.length then []
      else [warning (.malformedReport label labels.length values.length)] := by
  by_cases matching : values.length = labels.length <;>
    simp [warnings, firstMismatch?, single, mismatchFault, matching]

theorem warnings_population (internal external : List Binary64) :
    (population labels internal external).warnings =
      if internal.length ≠ labels.length then
        [warning (.malformedReport "Internal" labels.length internal.length)]
      else if external.length ≠ labels.length then
        [warning (.malformedReport "External" labels.length external.length)]
      else [] := by
  by_cases inside : internal.length = labels.length <;>
    by_cases outside : external.length = labels.length <;>
      simp [warnings, firstMismatch?, population, mismatchFault, inside, outside]

/-- Every count cell of a table is the one value of a series, in its place. -/
theorem values_of_ofWeeklyTable {table : List (List Cell)} {mode : Strictness} {report : Report}
    (read : ofWeeklyTable table mode = .ok report) :
    report.series.map Series.values = (countCells table).map fun cell => [cell.count] := by
  match table with
  | [] =>
      cases read
      rfl
  | [header] => cases read
  | header :: [] :: others => cases read
  | header :: (category :: counts) :: others =>
      obtain ⟨series, readSeries, rfl⟩ := ofWeeklyTable_eq_ok_iff.mp read
      obtain rfl := eq_mapIdx_of_weekSeriesFrom readSeries
      apply List.ext_getElem?
      intro index
      rw [List.getElem?_map, List.getElem?_mapIdx, Option.map_map]
      exact List.getElem?_map.symm

theorem values_ofWeeks (name : String) (weeks : List (String × Binary64)) :
    (ofWeeks name weeks).series.map Series.values = weeks.map fun week => [week.2] := by
  apply List.ext_getElem?
  intro index
  rw [List.getElem?_map, getElem?_series_ofWeeks, List.getElem?_map, Option.map_map]
  rfl

end Report

theorem Chart.values_datasets (report : Report) (scheme : ColorScheme) (label : Option String) :
    (dataOf report scheme label).datasets.map Dataset.values =
      report.series.map Series.values := by
  apply List.ext_getElem?
  intro index
  rw [List.getElem?_map, getElem?_datasets, List.getElem?_map, Option.map_map]
  rfl

namespace Page.DrawingCall

inductive SingleSeries : (HostValue → HostValue → DrawingCall) → DashboardChart → Prop
  | labelled {call : HostValue → HostValue → DrawingCall} {chart : DashboardChart}
      (kind : Labelled call chart) : SingleSeries call chart
  | stats (title : String) : SingleSeries (.stats title) (.stats title)

/-- A call logs some warnings and hands one chart over, which has some values. -/
structure Shows (call : DrawingCall) (words : Wording) (state : State) (target : HostValue)
    (warnings : List Log.Line) (values : List (List Binary64)) : Prop where
  warnings : Log.warnings (state.run words (.draw target call)).logs = warnings
  handed : ∃ chart, (call.run words target state.refusal state.clock).handed = [⟨target, chart⟩] ∧
    chart.data.datasets.map Chart.Dataset.values = values

variable {words : Wording} {call : DrawingCall}

theorem warnings_close (clock : UInt64) (logs : List Log.Line) (handed : List Handed)
    (fault : Option ChartFault) :
    Log.warnings (call.close clock logs handed fault).logs = Log.warnings logs := by
  cases fault with
  | none => rfl
  | some fault => simp [close, fail, Log.warnings]

theorem shows_of_planOf {chart : DashboardChart} {report : Report}
    (planned : call.plan words = .ok (planOf chart report)) (state : State) (target : HostValue) :
    call.Shows words state target report.warnings (report.series.map Series.values) := by
  have ends : call.Ends words target state.refusal _ _ _ :=
    .admitted planned chart.check_preset report.screen_permissive
  have ran := ends.run_eq_close state.clock
  constructor
  · -- the other lines tell of the drawing or of what the library throws
    have every := Report.level_of_screen report.screen_permissive
    simp only [State.run, ran, warnings_close]
    simpa [Log.warnings, Preset.drawingLine] using every
  · rw [ran, handed_close]
    exact ⟨_, rfl, Chart.values_datasets report _ _⟩

theorem SingleSeries.plan_eq {call : HostValue → HostValue → DrawingCall} {chart : DashboardChart}
    (single : SingleSeries call chart) (labels values : HostValue) :
    (call labels values).plan words = singlePlan words chart labels values := by
  cases single with
  | labelled kind => exact kind.plan_eq labels values
  | stats title => rfl

/-- What the calls of the dashboard warn of and draw, of arguments that they can read. -/
structure WarnsExactly (words : Wording) (state : State) (target : HostValue) : Prop where
  single : ∀ {call chart}, SingleSeries call chart → ∀ {labels values texts numbers},
    labels.strings? = some texts → values.numbers? = some numbers →
      (call labels values).Shows words state target
        (if numbers.length = texts.length then []
          else [Report.warning (.malformedReport chart.name texts.length numbers.length)])
        [numbers]
  /-- Of two series that do not match, the warning names the first. -/
  machines : ∀ title {labels internal external texts inside outside},
    labels.strings? = some texts → internal.numbers? = some inside →
      external.numbers? = some outside →
        (machinesPerBuild title labels internal external).Shows words state target
          (if inside.length ≠ texts.length then
            [Report.warning (.malformedReport "Internal" texts.length inside.length)]
          else if outside.length ≠ texts.length then
            [Report.warning (.malformedReport "External" texts.length outside.length)]
          else [])
          [inside, outside]
  thermal : ∀ {table rows report}, table.table? = some rows →
    Report.ofWeeklyTable rows .permissive = .ok report →
      (thermal table).Shows words state target []
        ((Report.countCells rows).map fun cell => [cell.count])
  weeklyBreakdown : ∀ name {weeks counts}, weeklyCounts weeks = .ok counts →
    (weeklyBreakdown name weeks).Shows words state target [] (counts.map fun count => [count.2])

/--
On every page and target, whether or not the charting library takes the chart: a call of the dashboard
whose arguments can be read warns of the first series that does not match its labels and of nothing
else, and hands over one chart with all the values that it was given.
-/
theorem warnsExactly (words : Wording) (state : State) (target : HostValue) :
    WarnsExactly words state target where
  single {call chart} single {labels values texts numbers} readLabels readValues := by
    have planned := (single.plan_eq labels values).trans
      (singlePlan_eq_ok words readLabels readValues chart)
    have shows := shows_of_planOf planned state target
    rw [Report.warnings_single] at shows
    exact shows
  machines title {labels internal external texts inside outside} readLabels readInternal
      readExternal := by
    have shows := shows_of_planOf
      (plan_machinesPerBuild words title readLabels readInternal readExternal) state target
    rw [Report.warnings_population] at shows
    exact shows
  thermal {table rows report} readTable reshaped := by
    have shows := shows_of_planOf (plan_thermal words readTable reshaped) state target
    rw [Report.warnings_of_wellFormed (Report.wellFormed_ofWeeklyTable reshaped),
      Report.values_of_ofWeeklyTable reshaped] at shows
    exact shows
  weeklyBreakdown name {weeks counts} read := by
    have shows := shows_of_planOf (plan_weeklyBreakdown name words read) state target
    rw [Report.warnings_of_wellFormed (Report.wellFormed_ofWeeks name counts),
      Report.values_ofWeeks] at shows
    exact shows

theorem warnsExactly_two_mismatches :
    let state : State :=
      ⟨⟨true, true, .error "SecurityError", [], fun _ => none⟩, some "out of order", 7⟩
    let builds : HostValue := .array [.string "b1"]
    let counts : HostValue := .array [.number .nan, .number .zero]
    let call := machinesPerBuild "Machines" builds counts (.array [])
    (∃ text, (state.run default (.draw .null call)).outcome = .error text) ∧
      call.Shows default state .null [Report.warning (.malformedReport "Internal" 1 2)]
        [[.nan, .zero], []] := by
  intro state builds counts call
  have readBuilds : builds.strings? = some ["b1"] := rfl
  have readCounts : counts.numbers? = some [.nan, .zero] := rfl
  have readNone : (HostValue.array []).numbers? = some [] := rfl
  exact ⟨⟨_, rfl⟩, (warnsExactly default state .null).machines "Machines" readBuilds readCounts readNone⟩

end Page.DrawingCall

end ReportCharts
