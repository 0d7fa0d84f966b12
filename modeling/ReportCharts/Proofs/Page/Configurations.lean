import ReportCharts.Proofs.Binary64.Integers
import ReportCharts.Proofs.Chart.Settings
import ReportCharts.Proofs.Page.Ending
import ReportCharts.Proofs.Page.Objects

/-!
The objects that a page hands to the charting library.

Every chart comes from options that passed their check and do not lack a title, because a page has no
other way to a preset than the dashboard's own ones and the resolved ones. What that means for a chart
is then read off the object that the chart is written as.
-/

namespace ReportCharts

open Json Page

namespace Page.HostValue

def IsZero (value : HostValue) : Prop := ∃ number, value = .number number ∧ number.toInt? = some 0

theorem isZero_uint32_iff {value : UInt32} :
    (ofJson (Shape.uint32.write value)).IsZero ↔ value = 0 := by
  have limit : UInt32.size < 2 * Binary64.significands := by decide
  have small : (value.toNat : Int).natAbs < 2 * Binary64.significands := by
    rw [Int.natAbs_natCast]
    exact Nat.lt_trans value.toNat_lt_size limit
  constructor
  · rintro ⟨number, same, zero⟩
    cases same
    rw [Number.toBinary64, Binary64.toInt?_ofInt small] at zero
    apply UInt32.toNat_inj.mp
    simpa using zero
  · rintro rfl
    exact ⟨_, rfl, Binary64.toInt?_ofInt small⟩

/-- An object whose settings can all be drawn, and which leaves out what is not set. -/
structure WellConfigured (config : HostValue) : Prop where
  titled : ∀ shown, config.at? ["options", "title", "display"] = some shown →
    shown = .bool false ∨ ∃ text, config.at? ["options", "title", "text"] = some (.string text)
  heading : ∀ size, config.at? ["options", "title", "fontSize"] = some size → ¬size.IsZero
  bars : ∀ direction ∈ ["xAxes", "yAxes"], ∀ axes,
    config.at? ["options", "scales", direction] = some (.array axes) →
      ∀ axis ∈ axes, ∀ thickness, axis.key? "barThickness" = some thickness → ¬thickness.IsZero
  scaled : config.at? ["options", "scales"] = none ∨
    ∃ x y, config.at? ["options", "scales", "xAxes"] = some (.array [x]) ∧
      config.at? ["options", "scales", "yAxes"] = some (.array [y]) ∧
      (x ≠ .object [] ∨ y ≠ .object []) ∧ x.key? "stacked" = y.key? "stacked"
  colored : ∃ datasets, config.at? ["data", "datasets"] = some (.array datasets) ∧
    ∀ dataset ∈ datasets, ∃ fill, dataset.key? "backgroundColor" = some fill
  complete : config.Complete

end Page.HostValue

open HostValue

namespace Chart

theorem at?_options (chart : Chart) (key : String) (rest : List String) :
    chart.object.at? ("options" :: key :: rest) =
      (Display.record.written? chart.display key).bind fun value => (ofJson value).at? rest := by
  have inside : (shape.write chart).member? "options" = some (Display.shape.write chart.display) := by
    simp [shape, record, Record.member?_shape]
  simp only [object, at?, key?_ofJson, inside, Option.map_some, Option.bind_some, Option.bind_map]
  rfl

theorem at?_title (chart : Chart) (key : String) :
    chart.object.at? ["options", "title", key] =
      (chart.display.title.bind fun title => Title.record.written? title key).map ofJson := by
  rw [at?_options]
  cases given : chart.display.title with
  | none => simp [Display.record, given]
  | some title => simp [Display.record, given, at?, key?_ofJson, Title.shape, Record.member?_shape]

theorem at?_scales (chart : Chart) (rest : List String) :
    chart.object.at? ("options" :: "scales" :: rest) =
      chart.display.scales.bind fun scales => (ofJson (Scales.shape.write scales)).at? rest := by
  rw [at?_options]
  cases given : chart.display.scales with
  | none => simp [Display.record, given]
  | some scales => simp [Display.record, given]

def Axis.object (axis : Axis) : HostValue := .ofJson (Axis.shape.write axis)

theorem Axis.key?_object (axis : Axis) (key : String) :
    axis.object.key? key = (Axis.record.written? axis key).map ofJson := by
  rw [object, key?_ofJson]
  rfl

theorem at?_axes (chart : Chart) {direction : String} {axes : Scales → List Axis}
    (direct : (direction, axes) = ("xAxes", Scales.x) ∨ (direction, axes) = ("yAxes", Scales.y)) :
    chart.object.at? ["options", "scales", direction] =
      chart.display.scales.map fun scales => .array ((axes scales).map Axis.object) := by
  rw [at?_scales]
  cases chart.display.scales with
  | none => rfl
  | some scales =>
      rcases direct with same | same
      all_goals
        cases same
        simp [at?, key?_ofJson, Scales.shape, Scales.record, Record.member?_shape, Shape.list, ofJson,
          ofItems_eq_map, Axis.object, Function.comp_def]

theorem Axis.eq_plain_of_object {axis : Axis} (bare : axis.object = .object []) :
    axis = .plain := by
  have nothing (key : String) : Axis.record.written? axis key = none := by
    have found := axis.key?_object key
    rw [bare] at found
    exact Option.map_eq_none_iff.mp found.symm
  have stacked : axis.stacked = none := by simpa [Axis.record] using nothing "stacked"
  have label : axis.label = none := by simpa [Axis.record] using nothing "scaleLabel"
  have bars : axis.barThickness = none := by simpa [Axis.record] using nothing "barThickness"
  have ticks : axis.ticks = none := by simpa [Axis.record] using nothing "ticks"
  obtain ⟨_, _, _, _⟩ := axis
  subst stacked label bars ticks
  rfl

theorem titled_object {chart : Chart} (titled : chart.Titled) {shown : HostValue}
    (found : chart.object.at? ["options", "title", "display"] = some shown) :
    shown = .bool false ∨
      ∃ text, chart.object.at? ["options", "title", "text"] = some (.string text) := by
  rw [at?_title] at found ⊢
  cases given : chart.display.title with
  | none => simp [given] at found
  | some title =>
      have display : .bool title.display = shown := by
        simpa [given, Title.record, Shape.bool, ofJson] using found
      cases on : title.display with
      | false =>
          rw [on] at display
          exact .inl display.symm
      | true =>
          obtain ⟨text, present⟩ := Option.isSome_iff_exists.mp (titled title given on)
          refine .inr ⟨text, ?_⟩
          simp [Title.record, present, Shape.string, ofJson]

theorem heading_object {chart : Chart} (visible : chart.Visible) {size : HostValue}
    (found : chart.object.at? ["options", "title", "fontSize"] = some size) : ¬size.IsZero := by
  rw [at?_title] at found
  cases given : chart.display.title with
  | none => simp [given] at found
  | some title =>
      cases present : title.fontSize with
      | none => simp [given, Title.record, present] at found
      | some fontSize =>
          have written : ofJson (Shape.uint32.write fontSize) = size := by
            simpa [given, Title.record, present] using found
          rw [← written, isZero_uint32_iff]
          rintro rfl
          exact visible.2 title given present

theorem Axis.bars_object {axis : Axis} (visible : axis.barThickness ≠ some 0)
    {thickness : HostValue} (found : axis.object.key? "barThickness" = some thickness) :
    ¬thickness.IsZero := by
  rw [key?_object] at found
  cases present : axis.barThickness with
  | none => simp [Axis.record, present] at found
  | some bars =>
      have written : ofJson (Shape.uint32.write bars) = thickness := by
        simpa [Axis.record, present] using found
      rw [← written, isZero_uint32_iff]
      rintro rfl
      exact visible present

theorem bars_object {chart : Chart} (visible : chart.Visible) {direction : String}
    (direct : direction ∈ ["xAxes", "yAxes"]) {axes : List HostValue}
    (found : chart.object.at? ["options", "scales", direction] = some (.array axes)) {axis : HostValue}
    (member : axis ∈ axes) {thickness : HostValue}
    (thick : axis.key? "barThickness" = some thickness) : ¬thickness.IsZero := by
  obtain ⟨along, direct, inside⟩ : ∃ along : Scales → List Axis,
      ((direction, along) = ("xAxes", Scales.x) ∨ (direction, along) = ("yAxes", Scales.y)) ∧
        ∀ scales, chart.display.scales = some scales → along scales ⊆ chart.axes := by
    rcases List.mem_cons.mp direct with rfl | direct
    · refine ⟨Scales.x, .inl rfl, ?_⟩
      intro scales given
      simp [Chart.axes, given]
    · obtain rfl := List.mem_singleton.mp direct
      refine ⟨Scales.y, .inr rfl, ?_⟩
      intro scales given
      simp [Chart.axes, given]
  rw [at?_axes chart direct] at found
  obtain ⟨scales, given, same⟩ := Option.map_eq_some_iff.mp found
  obtain rfl := HostValue.array.inj same
  obtain ⟨source, sourceMember, rfl⟩ := List.mem_map.mp member
  exact Axis.bars_object (visible.1 source (inside scales given sourceMember)) thick

theorem scaled_object {chart : Chart} (scaled : chart.Scaled) :
    chart.object.at? ["options", "scales"] = none ∨
      ∃ x y, chart.object.at? ["options", "scales", "xAxes"] = some (.array [x]) ∧
        chart.object.at? ["options", "scales", "yAxes"] = some (.array [y]) ∧
        (x ≠ .object [] ∨ y ≠ .object []) ∧ x.key? "stacked" = y.key? "stacked" := by
  rcases scaled with none | ⟨x, y, given, setting, stacked⟩
  · refine .inl ?_
    rw [at?_scales, none]
    rfl
  · refine .inr ⟨x.object, y.object, ?_, ?_, ?_, ?_⟩
    · rw [at?_axes chart (.inl rfl), given]
      rfl
    · rw [at?_axes chart (.inr rfl), given]
      rfl
    · rcases setting with setting | setting
      · exact .inl fun bare => setting (Axis.eq_plain_of_object bare)
      · exact .inr fun bare => setting (Axis.eq_plain_of_object bare)
    · rw [Axis.key?_object, Axis.key?_object]
      simp [Axis.record, stacked]

theorem colored_object {chart : Chart} {scheme : ColorScheme} {report : Report}
    (colored : chart.ColoredBy scheme report) :
    ∃ datasets, chart.object.at? ["data", "datasets"] = some (.array datasets) ∧
      ∀ dataset ∈ datasets, ∃ fill, dataset.key? "backgroundColor" = some fill := by
  refine ⟨chart.data.datasets.map fun dataset => ofJson (Dataset.shape.write dataset), ?_, ?_⟩
  · simp [object, at?, key?_ofJson, shape, record, Record.member?_shape, Data.shape, Data.record,
      Shape.list, ofJson, ofItems_eq_map, Function.comp_def]
  · intro dataset member
    obtain ⟨source, sourceMember, rfl⟩ := List.mem_map.mp member
    obtain ⟨fill, filled⟩ := Option.isSome_iff_exists.mp (colored.fill_isSome sourceMember)
    refine ⟨ofJson (Fill.shape.write fill), ?_⟩
    simp [key?_ofJson, Dataset.shape, Record.member?_shape, Dataset.record, filled]

open Shape

theorem Fill.writesComplete : Fill.shape.WritesComplete := by
  intro fill
  cases fill with
  | single color => exact .string color
  | perCategory colors => exact WritesComplete.list .string colors

theorem Dataset.writesComplete : Dataset.shape.WritesComplete :=
  (Record.WritesComplete.start
    |>.required .string
    |>.omittable Fill.writesComplete
    |>.required (.list .double)).shape

theorem Data.writesComplete : Data.shape.WritesComplete :=
  (Record.WritesComplete.start
    |>.required (.list .string)
    |>.required (.list Dataset.writesComplete)).shape

theorem Legend.writesComplete : Legend.shape.WritesComplete :=
  (Record.WritesComplete.start
    |>.omittable .bool
    |>.omittable (.named _ _)).shape

theorem Title.writesComplete : Title.shape.WritesComplete :=
  (Record.WritesComplete.start
    |>.required .bool
    |>.omittable .string
    |>.omittable .uint32).shape

theorem AxisLabel.writesComplete : AxisLabel.shape.WritesComplete :=
  (Record.WritesComplete.start
    |>.required .bool
    |>.required .string
    |>.required .uint32
    |>.required .string).shape

theorem Ticks.writesComplete : Ticks.shape.WritesComplete :=
  (Record.WritesComplete.start |>.required .bool).shape

theorem Axis.writesComplete : Axis.shape.WritesComplete :=
  (Record.WritesComplete.start
    |>.omittable .bool
    |>.omittable AxisLabel.writesComplete
    |>.omittable .uint32
    |>.omittable Ticks.writesComplete).shape

theorem Scales.writesComplete : Scales.shape.WritesComplete :=
  (Record.WritesComplete.start
    |>.required (.list Axis.writesComplete)
    |>.required (.list Axis.writesComplete)).shape

theorem Display.writesComplete : Display.shape.WritesComplete :=
  (Record.WritesComplete.start
    |>.omittable Legend.writesComplete
    |>.omittable Title.writesComplete
    |>.omittable .bool
    |>.omittable Scales.writesComplete).shape

theorem writesComplete : Chart.shape.WritesComplete :=
  (Record.WritesComplete.start
    |>.required (.named _ _)
    |>.required Data.writesComplete
    |>.required Display.writesComplete).shape

end Chart

theorem Preset.wellConfigured_chart {preset : Preset} (checked : preset.options.check = .ok ())
    (titled : preset.options.lacksTitle = false) (report : Report) :
    (preset.chart report).object.WellConfigured where
  titled _ found := Chart.titled_object (preset.titled_chart titled report) found
  heading _ found := Chart.heading_object (preset.visible_chart checked report) found
  bars _ direct _ found _ member _ thick :=
    Chart.bars_object (preset.visible_chart checked report) direct found member thick
  scaled := Chart.scaled_object (preset.scaled_chart report)
  colored := Chart.colored_object (preset.coloredBy_chart report)
  complete := Chart.writesComplete _

theorem DashboardChart.lacksTitle_preset (chart : DashboardChart) :
    chart.preset.options.lacksTitle = false := by
  cases chart with
  | _ => rfl

namespace Page

theorem DrawingCall.lacksTitle_of_plan {words : Wording} {call : DrawingCall} {plan : Plan}
    (planned : call.plan words = .ok plan) : plan.preset.options.lacksTitle = false := by
  rcases plan_cases planned with ⟨chart, report, rfl⟩ | ⟨name, _, _, _, _, overrides, -, -, resolved⟩
  · exact chart.lacksTitle_preset
  · obtain ⟨base, -, -, titled, -⟩ := Preset.resolve_eq_ok_iff.mp resolved
    exact titled

theorem DrawingCall.wellConfigured_of_ends {words : Wording} {call : DrawingCall}
    {target : HostValue} {refusal : Option String} {fault : Option ChartFault} {logs : List Log.Line}
    {handed : List Handed} (ends : call.Ends words target refusal fault logs handed) :
    ∀ chart ∈ handed, chart.config.WellConfigured := by
  cases ends with
  | unread planned | unusable planned checked | refused planned checked screened => simp
  | admitted planned checked screened =>
      intro chart member
      obtain rfl := List.mem_singleton.mp member
      exact Preset.wellConfigured_chart checked (lacksTitle_of_plan planned) _

namespace State

theorem wellConfigured_run (words : Wording) (state : State) (call : Call) :
    ∀ handed ∈ (state.run words call).handed, handed.config.WellConfigured := by
  intro handed member
  cases call with
  | draw target drawing =>
      obtain ⟨fault, logs, charts, ends⟩ := drawing.exists_ends words target state.refusal
      have listed : handed ∈ charts := by
        rw [← ends.toList_handed]
        exact Option.mem_toList.mpr member
      exact DrawingCall.wellConfigured_of_ends ends handed listed
  | _ => cases member

/-- Whatever a page's scripts do in whatever order, every chart that is handed over is in order. -/
theorem wellConfigured_runAll (words : Wording) (state : State) (calls : List Call) :
    ∀ reply ∈ state.runAll words calls, ∀ handed ∈ reply.handed, handed.config.WellConfigured := by
  induction calls generalizing state with
  | nil => simp [runAll]
  | cons call rest inductionHypothesis =>
      intro reply member
      rcases List.mem_cons.mp member with rfl | member
      · exact state.wellConfigured_run words call
      · exact inductionHypothesis _ reply member

theorem wellConfigured_runAll_stats :
    let state : State := ⟨⟨true, true, .ok "/", [], fun _ => none⟩, some "busy", 1700000000000⟩
    let stats : Call := .draw (.string "canvas")
      (.stats "Platforms" (.array [.string "x86"]) (.array [.number .zero]))
    let replies := state.runAll default [.init, stats, .refuse none, stats]
    ∃ reply ∈ replies, ∃ handed ∈ reply.handed, handed.config.WellConfigured ∧
      handed.config.at? ["options", "title", "text"] = some (.string "Platforms") := by
  intro state stats replies
  have among : state.run default stats ∈ replies := List.mem_cons_of_mem _ List.mem_cons_self
  obtain ⟨handed, given, text⟩ : ∃ handed, (state.run default stats).handed = some handed ∧
      handed.config.at? ["options", "title", "text"] = some (.string "Platforms") :=
    ⟨_, rfl, rfl⟩
  exact ⟨_, among, handed, given, wellConfigured_runAll _ state _ _ among handed given, text⟩

end State

end Page

end ReportCharts
