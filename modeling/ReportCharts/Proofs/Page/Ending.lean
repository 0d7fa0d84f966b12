import ReportCharts.Page.Calls
import ReportCharts.Proofs.Json.Sound

/-!
How a drawing call ends.

There are four ways: the arguments cannot be read, the options or the report do not pass their check,
or the charting library gets a chart, which it may still refuse. `Ends` names them once; what the page
sees of a call follows from the way alone, and neither the page nor the clock has a part in it.
-/

namespace ReportCharts.Page

open Json

variable {words : Wording}

namespace DrawingCall

theorem exists_planOf_of_singlePlan {chart : DashboardChart} {labels values : HostValue} {plan : Plan}
    (planned : singlePlan words chart labels values = .ok plan) :
    ∃ report, plan = planOf chart report := by
  obtain ⟨texts, -, planned⟩ := bind_eq_ok planned
  obtain ⟨numbers, -, planned⟩ := bind_eq_ok planned
  cases planned
  exact ⟨_, rfl⟩

/--
A plan draws a chart of the dashboard permissively, or it draws a report that the page handed over
with a resolved preset.
-/
theorem plan_cases {call : DrawingCall} {plan : Plan} (planned : call.plan words = .ok plan) :
    (∃ chart report, plan = planOf chart report) ∨
      ∃ name value text format strict overrides,
        call = .preset name value text format strict ∧
          value.report? = some plan.report ∧
          Preset.resolve name overrides = .ok plan.preset := by
  cases call with
  | builds labels values | crashStats labels values | crashReports labels values
  | mceClass labels values | mceReports labels values | stats title labels values =>
      obtain ⟨report, rfl⟩ := exists_planOf_of_singlePlan planned
      exact .inl ⟨_, report, rfl⟩
  | machinesPerBuild title labels internal external =>
      obtain ⟨texts, -, planned⟩ := bind_eq_ok planned
      obtain ⟨inside, -, planned⟩ := bind_eq_ok planned
      obtain ⟨outside, -, planned⟩ := bind_eq_ok planned
      cases planned
      exact .inl ⟨_, _, rfl⟩
  | thermal table =>
      obtain ⟨rows, -, planned⟩ := bind_eq_ok planned
      obtain ⟨report, -, planned⟩ := bind_eq_ok planned
      cases planned
      exact .inl ⟨_, report, rfl⟩
  | weeklyBreakdown name weeks =>
      obtain ⟨counts, -, planned⟩ := bind_eq_ok planned
      cases planned
      exact .inl ⟨_, _, rfl⟩
  | preset name value text format strict =>
      obtain ⟨report, read, planned⟩ := bind_eq_ok planned
      obtain ⟨overrides, -, planned⟩ := bind_eq_ok planned
      obtain ⟨preset, resolved, planned⟩ := bind_eq_ok planned
      cases planned
      exact .inr ⟨name, value, text, format, strict, overrides, rfl, wanting_eq_ok_iff.mp read,
        mapError_eq_ok_iff.mp resolved⟩

/-- The fault with which a call ends, if any, the lines logged before it and the charts handed over. -/
inductive Ends (call : DrawingCall) (words : Wording) (target : HostValue) (refusal : Option String) :
    Option ChartFault → List Log.Line → List Handed → Prop
  | unread {fault : ChartFault} (planned : call.plan words = .error fault) :
      Ends call words target refusal (some fault) [] []
  | unusable {plan : Plan} {fault : SettingsFault} (planned : call.plan words = .ok plan)
      (checked : plan.preset.options.check = .error fault) :
      Ends call words target refusal (some fault.toChartFault) [] []
  | refused {plan : Plan} {fault : ChartFault} (planned : call.plan words = .ok plan)
      (checked : plan.preset.options.check = .ok ())
      (screened : plan.report.screen plan.mode = .error fault) :
      Ends call words target refusal (some fault) [] []
  | admitted {plan : Plan} {warnings : List Log.Line} (planned : call.plan words = .ok plan)
      (checked : plan.preset.options.check = .ok ())
      (screened : plan.report.screen plan.mode = .ok warnings) :
      Ends call words target refusal (refusal.map constructionFault)
        (warnings ++ [plan.preset.drawingLine (plan.preset.chart plan.report)])
        [⟨target, plan.preset.chart plan.report⟩]

theorem exists_ends (call : DrawingCall) (words : Wording) (target : HostValue)
    (refusal : Option String) :
    ∃ fault logs handed, call.Ends words target refusal fault logs handed := by
  cases planned : call.plan words with
  | error fault => exact ⟨_, _, _, .unread planned⟩
  | ok plan =>
      cases checked : plan.preset.options.check with
      | error fault => exact ⟨_, _, _, .unusable planned checked⟩
      | ok checkedOptions =>
          cases screened : plan.report.screen plan.mode with
          | error fault => exact ⟨_, _, _, .refused planned checked screened⟩
          | ok warnings => exact ⟨_, _, _, .admitted planned checked screened⟩

def close (call : DrawingCall) (clock : UInt64) (logs : List Log.Line) (handed : List Handed) :
    Option ChartFault → Drawn
  | none => ⟨.ok (), logs, handed⟩
  | some fault => call.fail clock logs handed fault

variable {call : DrawingCall} {target : HostValue} {refusal : Option String}
  {fault : Option ChartFault} {logs : List Log.Line} {handed : List Handed}

theorem Ends.run_eq_close (ends : call.Ends words target refusal fault logs handed) (clock : UInt64) :
    call.run words target refusal clock = call.close clock logs handed fault := by
  cases ends with
  | unread planned => simp only [run, planned, close]
  | unusable planned checked =>
      simp only [run, planned, Preset.render_of_unusable _ _ checked, close]
  | refused planned checked screened =>
      simp only [run, planned, Preset.render_of_refused _ _ checked screened, close,
        SettingsFault.toChartFault]
  | admitted planned checked screened =>
      simp only [run, planned, Preset.render_of_admitted _ _ checked screened]
      cases refusal with
      | none => rfl
      | some text => rfl

theorem handed_close (clock : UInt64) : (call.close clock logs handed fault).handed = handed := by
  cases fault <;> rfl

/-- No call hands over more than one chart, so the page's reply has all of them. -/
theorem Ends.toList_handed {state : State}
    (ends : call.Ends words target state.refusal fault logs handed) :
    (state.run words (.draw target call)).handed.toList = handed := by
  have ran := ends.run_eq_close state.clock
  simp only [State.run, ran, handed_close]
  cases ends with
  | unread planned | unusable planned checked | refused planned checked screened => rfl
  | admitted planned checked screened => rfl

end DrawingCall

end ReportCharts.Page
