import ReportCharts.Page.Calls
import ReportCharts.Proofs.Overrides.Formats

/-!
The calls for single charts against the call for any preset.

A call for one chart has its preset built in, title included; the general call looks a preset up by
name and layers a title over it. Both end in the same chart, because a preset's label replaces the
label of a single series and layering a title over an untitled preset gives the titled one.
-/

namespace ReportCharts

/-- The label of a single series does not show where the preset has one of its own. -/
theorem Chart.dataOf_single (given label other : String) (scheme : ColorScheme)
    (labels : List String) (values : List Binary64) :
    dataOf (.single label labels values) scheme (some given) =
      dataOf (.single other labels values) scheme (some given) := rfl

theorem Chart.dataOf_single_none (given label : String) (scheme : ColorScheme)
    (labels : List String) (values : List Binary64) :
    dataOf (.single label labels values) scheme (some given) =
      dataOf (.single given labels values) scheme none := rfl

theorem Preset.outcome_prepare_permissive (preset : Preset) (report : Report) :
    (preset.prepare report .permissive).outcome =
      preset.options.check.map fun () => preset.chart report := by
  unfold prepare
  cases preset.options.check with
  | error fault => rfl
  | ok checked =>
      unfold Report.screen
      cases report.checkLengths <;> rfl

theorem DashboardChart.check_preset (chart : DashboardChart) :
    chart.preset.options.check = .ok () := by
  refine Options.check_eq_ok_iff.mpr ?_
  cases chart with
  | classification subject | countPerBuild subject => cases subject <;> decide
  | _ => exact ⟨nofun, nofun⟩

namespace Page

namespace HostValue

def plainSeries (label : String) (values : HostValue) : HostValue :=
  .object [("label", .string label), ("values", values)]

def reportOf (labels : HostValue) (series : List HostValue) : HostValue :=
  .object [("labels", labels), ("series", .array series)]

def ofSeries (series : Series) : HostValue :=
  .object ([("label", .string series.label), ("values", .array (series.values.map .number))] ++
    series.color.toList.map fun color => ("color", .string color))

def ofReport (report : Report) : HostValue :=
  reportOf (.array (report.labels.map .string)) (report.series.map ofSeries)

theorem mapM_map_eq_some {α : Type} (write : α → HostValue) (read : HostValue → Option α)
    (reads : ∀ value, read (write value) = some value) (values : List α) :
    (values.map write).mapM read = some values := by
  induction values with
  | nil => rfl
  | cons value rest inductionHypothesis =>
      simp [List.mapM_cons, reads, inductionHypothesis]

theorem series?_plainSeries {values : HostValue} {numbers : List Binary64}
    (read : values.numbers? = some numbers) (label : String) :
    (plainSeries label values).series? = some ⟨label, numbers, none⟩ := by
  simp [series?, plainSeries, key?, string?, read, optionalString?]

theorem report?_reportOf {labels : HostValue} {texts : List String} {items : List HostValue}
    {series : List Series} (readLabels : labels.strings? = some texts)
    (readSeries : items.mapM series? = some series) :
    (reportOf labels items).report? = some ⟨texts, series⟩ := by
  simp [report?, reportOf, key?, readLabels, list?, readSeries]

theorem series?_ofSeries (series : Series) : (ofSeries series).series? = some series := by
  have values : (HostValue.array (series.values.map .number)).numbers? = some series.values :=
    mapM_map_eq_some .number number? (fun _ => rfl) series.values
  obtain ⟨label, numbers, color⟩ := series
  cases color <;> simp [series?, ofSeries, key?, string?, values, optionalString?]

theorem report?_ofReport (report : Report) : (ofReport report).report? = some report := by
  refine report?_reportOf ?_ ?_
  · exact mapM_map_eq_some .string string? (fun _ => rfl) report.labels
  · exact mapM_map_eq_some ofSeries series? series?_ofSeries report.series

end HostValue

open HostValue

namespace DrawingCall

def unlayered (name : String) (report : HostValue) : DrawingCall :=
  .preset name report none none false

/-- The calls that draw a single series under a preset with a label of its own. -/
inductive Labelled : (HostValue → HostValue → DrawingCall) → DashboardChart → Prop
  | builds : Labelled .builds .buildsPerRecord
  | crashStats : Labelled .crashStats (.classification .crash)
  | crashReports : Labelled .crashReports (.countPerBuild .crash)
  | mceClass : Labelled .mceClass (.classification .mce)
  | mceReports : Labelled .mceReports (.countPerBuild .mce)

/--
The call for one chart and the general call that stands for it.

A reading that succeeds is what a call asks of its arguments. A title goes into an override text,
which may be in any format.
-/
inductive Counterpart (words : Wording) : DrawingCall → DrawingCall → Prop
  | labelled {call : HostValue → HostValue → DrawingCall} {chart : DashboardChart}
      {labels values : HostValue} (kind : Labelled call chart) (label : String)
      (readLabels : labels.strings?.isSome) (readValues : values.numbers?.isSome) :
      Counterpart words (call labels values)
        (unlayered chart.name (reportOf labels [plainSeries label values]))
  | stats {title text : String} {format : Option String} {labels values : HostValue}
      (readLabels : labels.strings?.isSome) (readValues : values.numbers?.isSome)
      (titled : Overrides.ofNamedText words.texts format text = .ok { title := some title }) :
      Counterpart words (.stats title labels values)
        (.preset "stats" (reportOf labels [plainSeries title values]) (some text) format false)
  | machinesPerBuild {title text : String} {format : Option String}
      {labels internal external : HostValue} (readLabels : labels.strings?.isSome)
      (readInternal : internal.numbers?.isSome) (readExternal : external.numbers?.isSome)
      (titled : Overrides.ofNamedText words.texts format text = .ok { title := some title }) :
      Counterpart words (.machinesPerBuild title labels internal external)
        (.preset "population"
          (reportOf labels [plainSeries "Internal" internal, plainSeries "External" external])
          (some text) format false)
  | thermal {table : HostValue} {rows : List (List Cell)} {report : Report}
      (readTable : table.table? = some rows)
      (reshaped : Report.ofWeeklyTable rows .permissive = .ok report) :
      Counterpart words (.thermal table) (unlayered "thermal" (ofReport report))
  | weeklyBreakdown {name : String} {weeks : HostValue} {counts : List (String × Binary64)}
      (readWeeks : weeklyCounts weeks = .ok counts) :
      Counterpart words (.weeklyBreakdown name weeks)
        (unlayered "mce-weekly" (ofReport (.ofWeeks name counts)))

/-- Both calls hand one chart over for a target, and both succeed or fail with one fault. -/
def SameEffect (words : Wording) (state : State) (target : HostValue)
    (first second : DrawingCall) : Prop :=
  ∃ chart,
    (state.run words (.draw target first)).handed = some ⟨target, chart⟩ ∧
    (state.run words (.draw target second)).handed = some ⟨target, chart⟩ ∧
    ((state.run words (.draw target first)).outcome = .ok .done ∧
        (state.run words (.draw target second)).outcome = .ok .done ∨
      ∃ fault,
        (state.run words (.draw target first)).outcome =
            .error (first.envelope state.clock fault).toJson ∧
          (state.run words (.draw target second)).outcome =
            .error (second.envelope state.clock fault).toJson)

/-- A call whose arguments plan a chart; warnings about its report are left open. -/
def Plans (call : DrawingCall) (words : Wording) (chart : Chart) : Prop :=
  ∃ plan, call.plan words = .ok plan ∧
    (plan.preset.prepare plan.report plan.mode).outcome = .ok chart

variable {words : Wording}

theorem handed_of_plans {call : DrawingCall} {chart : Chart} (plans : call.Plans words chart)
    (state : State) (target : HostValue) :
    (state.run words (.draw target call)).handed = some ⟨target, chart⟩ := by
  obtain ⟨plan, planned, prepared⟩ := plans
  simp only [State.run, run, planned, Preset.render, prepared, Canvas.draw]
  cases state.refusal <;> rfl

theorem outcome_of_plans {call : DrawingCall} {chart : Chart} (plans : call.Plans words chart)
    (state : State) (target : HostValue) :
    (state.run words (.draw target call)).outcome =
      match state.refusal with
      | none => .ok .done
      | some text =>
          .error (call.envelope state.clock
            (.interop ("Chart construction failed: " ++ (HostValue.string text).shown))).toJson := by
  obtain ⟨plan, planned, prepared⟩ := plans
  simp only [State.run, run, planned, Preset.render, prepared, Canvas.draw]
  cases state.refusal <;> rfl

theorem sameEffect_of_plans {first second : DrawingCall} {chart : Chart}
    (firstPlans : first.Plans words chart) (secondPlans : second.Plans words chart) (state : State)
    (target : HostValue) : SameEffect words state target first second := by
  refine ⟨chart, handed_of_plans firstPlans state target, handed_of_plans secondPlans state target,
    ?_⟩
  rw [outcome_of_plans firstPlans, outcome_of_plans secondPlans]
  cases state.refusal with
  | none => exact .inl ⟨rfl, rfl⟩
  | some text => exact .inr ⟨_, rfl, rfl⟩

theorem plans_planOf (chart : DashboardChart) (report : Report) {call : DrawingCall}
    (planned : call.plan words = .ok (planOf chart report)) :
    call.Plans words (chart.preset.chart report) := by
  refine ⟨_, planned, ?_⟩
  rw [planOf, Preset.outcome_prepare_permissive, DashboardChart.check_preset]
  rfl

theorem singlePlan_eq_ok (words : Wording) {labels values : HostValue} {texts : List String}
    {numbers : List Binary64} (readLabels : labels.strings? = some texts)
    (readValues : values.numbers? = some numbers) (chart : DashboardChart) :
    singlePlan words chart labels values = .ok (planOf chart (.single chart.name texts numbers)) := by
  simp only [singlePlan, wanting_eq_ok_iff.mpr readLabels, wanting_eq_ok_iff.mpr readValues]
  rfl

theorem Labelled.plan_eq {call : HostValue → HostValue → DrawingCall} {chart : DashboardChart}
    (kind : Labelled call chart) (labels values : HostValue) :
    (call labels values).plan words = singlePlan words chart labels values := by
  cases kind <;> rfl

theorem plan_machinesPerBuild (words : Wording) (title : String) {labels internal external : HostValue}
    {texts : List String} {inside outside : List Binary64} (readLabels : labels.strings? = some texts)
    (readInternal : internal.numbers? = some inside)
    (readExternal : external.numbers? = some outside) :
    (machinesPerBuild title labels internal external).plan words =
      .ok (planOf (.population title) (.population texts inside outside)) := by
  simp only [plan, wanting_eq_ok_iff.mpr readLabels, wanting_eq_ok_iff.mpr readInternal,
    wanting_eq_ok_iff.mpr readExternal]
  rfl

theorem plan_thermal (words : Wording) {table : HostValue} {rows : List (List Cell)} {report : Report}
    (readTable : table.table? = some rows)
    (reshaped : Report.ofWeeklyTable rows .permissive = .ok report) :
    (thermal table).plan words = .ok (planOf .thermalByWeek report) := by
  simp only [plan, wanting_eq_ok_iff.mpr readTable, bind, Except.bind, reshaped]
  rfl

theorem plans_preset {name : String} {value : HostValue} {report : Report}
    (text format : Option String) {overrides : Option Overrides} {preset : Preset}
    (readReport : value.report? = some report)
    (readText : text.mapM (Overrides.ofNamedText words.texts format) = .ok overrides)
    (resolved : Preset.resolve name overrides = .ok preset)
    (drawable : preset.options.check = .ok ()) :
    (DrawingCall.preset name value text format false).Plans words (preset.chart report) := by
  refine ⟨⟨preset, report, .permissive⟩, ?_, ?_⟩
  · simp only [plan, wanting_eq_ok_iff.mpr readReport, mapError_eq_ok_iff.mpr readText,
      mapError_eq_ok_iff.mpr resolved, bind, Except.bind]
    rfl
  · rw [Preset.outcome_prepare_permissive, drawable]
    rfl

theorem plans_unlayered (chart : DashboardChart) {value : HostValue} {report : Report}
    (readReport : value.report? = some report)
    (registered : Preset.resolve chart.name none = .ok chart.preset) :
    (unlayered chart.name value).Plans words (chart.preset.chart report) :=
  plans_preset none none readReport rfl registered chart.check_preset

theorem Labelled.registered {call : HostValue → HostValue → DrawingCall} {chart : DashboardChart}
    (kind : Labelled call chart) : Preset.resolve chart.name none = .ok chart.preset := by
  cases kind <;> rfl

/-- A single series under any label gives the chart that the preset's own label gives. -/
theorem Labelled.plans {call : HostValue → HostValue → DrawingCall} {chart : DashboardChart}
    (kind : Labelled call chart) {labels values : HostValue} {texts : List String}
    {numbers : List Binary64} (readLabels : labels.strings? = some texts)
    (readValues : values.numbers? = some numbers) (label : String) :
    (call labels values).Plans words (chart.preset.chart (.single label texts numbers)) := by
  have given : ∃ given, chart.preset.datasetLabel = some given := by
    cases kind <;> exact ⟨_, rfl⟩
  obtain ⟨given, labelled⟩ := given
  have same : chart.preset.chart (.single chart.name texts numbers) =
      chart.preset.chart (.single label texts numbers) := by
    simp only [Preset.chart, Chart.assemble, labelled]
    rw [Chart.dataOf_single given chart.name label]
  rw [← same]
  exact plans_planOf _ _ ((kind.plan_eq labels values).trans
    (singlePlan_eq_ok words readLabels readValues chart))

theorem readText_of_titled {format : Option String} {text : String} {overrides : Overrides}
    (titled : Overrides.ofNamedText words.texts format text = .ok overrides) :
    (some text).mapM (Overrides.ofNamedText words.texts format) = .ok (some overrides) := by
  change some <$> Overrides.ofNamedText words.texts format text = _
  rw [titled]
  rfl

theorem resolve_titled (title : String) :
    Preset.resolve "stats" (some { title := some title }) =
        .ok { Preset.stats (some title) with datasetLabel := none } ∧
      Preset.resolve "population" (some { title := some title }) =
        .ok (Preset.population (some title)) := by
  constructor <;> rfl

/--
Every call for one chart does on every page what the general call does that stands for it: the same
chart is handed over for the same target, and the outcome is the same up to the envelope.
-/
theorem sameEffect_of_counterpart {first second : DrawingCall} (pair : Counterpart words first second)
    (state : State) (target : HostValue) : SameEffect words state target first second := by
  cases pair with
  | @labelled call chart labels values kind label readLabels readValues =>
      obtain ⟨texts, readLabels⟩ := Option.isSome_iff_exists.mp readLabels
      obtain ⟨numbers, readValues⟩ := Option.isSome_iff_exists.mp readValues
      have series : [plainSeries label values].mapM series? = some [⟨label, numbers, none⟩] := by
        simp [series?_plainSeries readValues]
      exact sameEffect_of_plans (kind.plans readLabels readValues label)
        (plans_unlayered chart (report?_reportOf readLabels series) kind.registered) state target
  | @stats title text format labels values readLabels readValues titled =>
      obtain ⟨texts, readLabels⟩ := Option.isSome_iff_exists.mp readLabels
      obtain ⟨numbers, readValues⟩ := Option.isSome_iff_exists.mp readValues
      have series : [plainSeries title values].mapM series? = some [⟨title, numbers, none⟩] := by
        simp [series?_plainSeries readValues]
      have general := plans_preset (some text) format (report?_reportOf readLabels series)
        (readText_of_titled titled) (resolve_titled title).1
        (DashboardChart.check_preset (.stats title))
      have typed : Plans (.stats title labels values) words
          ((Preset.stats (some title)).chart (.single "stats" texts numbers)) :=
        plans_planOf (.stats title) _ (singlePlan_eq_ok words readLabels readValues _)
      have same : (Preset.stats (some title)).chart (.single "stats" texts numbers) =
          { Preset.stats (some title) with datasetLabel := none }.chart
            (.single title texts numbers) := by
        simp only [Preset.chart, Chart.assemble, Preset.stats]
        rw [Chart.dataOf_single_none title "stats"]
      rw [same] at typed
      exact sameEffect_of_plans typed general state target
  | @machinesPerBuild title text format labels internal external readLabels readInternal
      readExternal titled =>
      obtain ⟨texts, readLabels⟩ := Option.isSome_iff_exists.mp readLabels
      obtain ⟨inside, readInternal⟩ := Option.isSome_iff_exists.mp readInternal
      obtain ⟨outside, readExternal⟩ := Option.isSome_iff_exists.mp readExternal
      have series :
          [plainSeries "Internal" internal, plainSeries "External" external].mapM series? =
            some [⟨"Internal", inside, none⟩, ⟨"External", outside, none⟩] := by
        simp [series?_plainSeries readInternal, series?_plainSeries readExternal]
      have general := plans_preset (some text) format (report?_reportOf readLabels series)
        (readText_of_titled titled) (resolve_titled title).2
        (DashboardChart.check_preset (.population title))
      have typed : Plans (.machinesPerBuild title labels internal external) words
          ((DashboardChart.population title).preset.chart (.population texts inside outside)) :=
        plans_planOf _ _ (plan_machinesPerBuild words title readLabels readInternal readExternal)
      exact sameEffect_of_plans typed general state target
  | @thermal table rows report readTable reshaped =>
      have typed : Plans (.thermal table) words (DashboardChart.thermalByWeek.preset.chart report) :=
        plans_planOf _ _ (plan_thermal words readTable reshaped)
      exact sameEffect_of_plans typed
        (plans_unlayered .thermalByWeek (report?_ofReport report) rfl) state target
  | @weeklyBreakdown name weeks counts readWeeks =>
      have typed : Plans (.weeklyBreakdown name weeks) words
          (DashboardChart.weeklyBreakdown.preset.chart (.ofWeeks name counts)) := by
        refine plans_planOf _ _ ?_
        simp only [plan, readWeeks]
        rfl
      exact sameEffect_of_plans typed
        (plans_unlayered .weeklyBreakdown (report?_ofReport _) rfl) state target

theorem sameEffect_platform_stats :
    SameEffect default
      ⟨⟨false, false, .error "SecurityError", [], fun _ => none⟩, some "out of order", 7⟩ .null
      (.stats "Platforms" (.array [.string "a", .string "b"]) (.array [.number .nan]))
      (.preset "stats"
        (reportOf (.array [.string "a", .string "b"])
          [plainSeries "Platforms" (.array [.number .nan])])
        (some "\x7b\"title\":\"Platforms\"\x7d") none false) := by
  have written : Overrides.shape.toText { title := some "Platforms" } =
      "\x7b\"title\":\"Platforms\"\x7d" := by
    decide
  have titled := Overrides.ofNamedText_none (default : Wording).texts { title := some "Platforms" }
  rw [written] at titled
  exact sameEffect_of_counterpart (.stats rfl rfl titled) _ _

end DrawingCall

end Page

end ReportCharts
