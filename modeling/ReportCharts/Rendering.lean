import ReportCharts.Assembly
import ReportCharts.Log
import ReportCharts.Resolution

/-!
Rendering: checking options and report, assembling the chart and handing it to a drawer.

A report that is not well formed is refused in strict mode and drawn with a warning otherwise. The
drawer is whatever can take a chart; it is asked once for a rendering that passes both checks, and
not at all for one that does not.
-/

namespace ReportCharts

namespace Report

def warning (fault : ChartFault) : Log.Line :=
  ⟨.warn, "Drawing malformed report: " ++ fault.message⟩

/-- Check the lengths of a report; the lines are the warnings to log. -/
def screen (report : Report) (mode : Strictness) : Except ChartFault (List Log.Line) :=
  match report.checkLengths, mode with
  | .ok (), _ => .ok []
  | .error fault, .strict => .error fault
  | .error fault, .permissive => .ok [warning fault]

/--
A well-formed report passes in silence; for another one, strict mode fails with what the other mode
warns of.
-/
theorem screen_cases (report : Report) :
    (report.WellFormed ∧ ∀ mode, report.screen mode = .ok []) ∨
      ¬report.WellFormed ∧ ∃ series ∈ report.series,
        report.screen .strict = .error (report.mismatchFault series) ∧
          report.screen .permissive = .ok [warning (report.mismatchFault series)] := by
  unfold screen
  cases found : report.firstMismatch? with
  | none =>
      have wellFormed := firstMismatch?_eq_none_iff.mp found
      refine .inl ⟨wellFormed, ?_⟩
      intro mode
      rw [checkLengths_eq_ok_iff.mpr wellFormed]
  | some series =>
      have malformed : ¬report.WellFormed := by
        rw [← firstMismatch?_eq_none_iff, found]
        exact Option.some_ne_none series
      have checked : report.checkLengths = .error (report.mismatchFault series) := by
        rw [checkLengths, found]
      refine .inr ⟨malformed, series, List.mem_of_find?_eq_some found, ?_, ?_⟩
      · rw [checked]
      · rw [checked]

theorem exists_first_mismatch {report : Report} (malformed : ¬report.WellFormed) :
    ∃ before series after, report.series = before ++ series :: after ∧
      (∀ earlier ∈ before, earlier.values.length = report.labels.length) ∧
      series.values.length ≠ report.labels.length ∧
      report.screen .strict = .error (report.mismatchFault series) := by
  cases found : report.firstMismatch? with
  | none => exact absurd (firstMismatch?_eq_none_iff.mp found) malformed
  | some series =>
      obtain ⟨mismatching, before, after, split, matching⟩ :=
        List.find?_eq_some_iff_append.mp found
      refine ⟨before, series, after, split, ?_, ?_, ?_⟩
      · intro earlier member
        simpa using matching earlier member
      · simpa using mismatching
      · simp only [screen, checkLengths, found]

theorem exists_warnings {report : Report} {mode : Strictness}
    (matching : mode = .strict → report.WellFormed) :
    ∃ warnings, report.screen mode = .ok warnings := by
  rcases report.screen_cases with ⟨-, passes⟩ | ⟨malformed, series, -, -, permissive⟩
  · exact ⟨[], passes mode⟩
  · cases mode with
    | strict => exact absurd (matching rfl) malformed
    | permissive => exact ⟨_, permissive⟩

end Report

structure Prepared where
  logs : List Log.Line
  outcome : Except SettingsFault Chart

namespace Preset

def drawingLine (preset : Preset) (chart : Chart) : Log.Line :=
  ⟨.debug, "Drawing " ++ chart.kind.name ++ " chart '" ++ preset.name ++ "' with " ++
    toString chart.data.labels.length ++ " categories and " ++ toString chart.datasetCount ++
    " datasets"⟩

def prepare (preset : Preset) (report : Report) (mode : Strictness) : Prepared :=
  match preset.options.check with
  | .error fault => ⟨[], .error fault⟩
  | .ok () =>
      match report.screen mode with
      | .error fault => ⟨[], .error (.chart fault)⟩
      | .ok warnings =>
          ⟨warnings ++ [preset.drawingLine (preset.chart report)], .ok (preset.chart report)⟩

def withOptions (preset : Preset) (options : Options) : Preset :=
  { preset with options := options }

end Preset

structure Rendered (Drawer : Type) where
  outcome : Except SettingsFault Unit
  logs : List Log.Line
  drawer : Drawer

namespace Preset

variable {Drawer : Type} (draw : Drawer → Chart → Except SettingsFault Unit × Drawer)
  (drawer : Drawer)

/-- Render a report and hand the chart to a drawer, which may change even where it fails. -/
def render (preset : Preset) (report : Report) (mode : Strictness) : Rendered Drawer :=
  let prepared := preset.prepare report mode
  match prepared.outcome with
  | .error fault => ⟨.error fault, prepared.logs, drawer⟩
  | .ok chart =>
      let (outcome, drawer) := draw drawer chart
      ⟨outcome, prepared.logs, drawer⟩

variable {preset : Preset} {report : Report} {mode : Strictness}

theorem render_of_unusable {fault : SettingsFault} (checked : preset.options.check = .error fault) :
    preset.render draw drawer report mode = ⟨.error fault, [], drawer⟩ := by
  simp only [render, prepare, checked]

theorem render_of_refused {fault : ChartFault} (checked : preset.options.check = .ok ())
    (screened : report.screen mode = .error fault) :
    preset.render draw drawer report mode = ⟨.error (.chart fault), [], drawer⟩ := by
  simp only [render, prepare, checked, screened]

theorem render_of_admitted {warnings : List Log.Line} (checked : preset.options.check = .ok ())
    (screened : report.screen mode = .ok warnings) :
    preset.render draw drawer report mode =
      ⟨(draw drawer (preset.chart report)).1,
        warnings ++ [preset.drawingLine (preset.chart report)],
        (draw drawer (preset.chart report)).2⟩ := by
  simp only [render, prepare, checked, screened]

end Preset

end ReportCharts
