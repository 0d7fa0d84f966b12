import ReportCharts.Rendering

/-!
What the checks of a preset's options mean for the chart that is assembled with them.

A chart has its colours from the scheme of the preset, axes in both directions or none, and neither
bars nor a title of size zero when the options have passed their check. It shows a title only with a
text when its options do not lack one.
-/

namespace ReportCharts

namespace Chart

def axes (chart : Chart) : List Axis :=
  match chart.display.scales with
  | none => []
  | some scales => scales.x ++ scales.y

/-- Neither bars nor a title of size zero. -/
def Visible (chart : Chart) : Prop :=
  (∀ axis ∈ chart.axes, axis.barThickness ≠ some 0) ∧
    ∀ title ∈ chart.display.title, title.fontSize ≠ some 0

/-- Every dataset is coloured as a scheme colours the series at its place. -/
def ColoredBy (chart : Chart) (scheme : ColorScheme) (report : Report) : Prop :=
  chart.data.datasets.map Dataset.fill =
    report.series.mapIdx fun index series =>
      some (fillOf scheme report.labels.length index series)

def Titled (chart : Chart) : Prop :=
  ∀ title ∈ chart.display.title, title.display = true → title.text.isSome = true

/-- One axis each way that agree on stacking, one of them with a setting, or no axes at all. -/
def Scaled (chart : Chart) : Prop :=
  chart.display.scales = none ∨
    ∃ x y, chart.display.scales = some ⟨[x], [y]⟩ ∧ (x ≠ .plain ∨ y ≠ .plain) ∧
      x.stacked = y.stacked

theorem ColoredBy.fill_isSome {chart : Chart} {scheme : ColorScheme} {report : Report}
    (colored : chart.ColoredBy scheme report) {dataset : Dataset}
    (member : dataset ∈ chart.data.datasets) : dataset.fill.isSome = true := by
  have among : dataset.fill ∈ chart.data.datasets.map Dataset.fill := List.mem_map_of_mem member
  rw [colored, List.mem_mapIdx] at among
  obtain ⟨index, inside, filled⟩ := among
  rw [← filled]
  rfl

theorem mem_axes_assemble {kind : ChartKind} {report : Report} {options : Options}
    {scheme : ColorScheme} {label : Option String} {axis : Axis}
    (member : axis ∈ (assemble kind report options scheme label).axes) :
    axis = xAxisOf options ∨ axis = yAxisOf options := by
  unfold axes assemble displayOf scalesOf at member
  by_cases plain : ((xAxisOf options).isPlain && (yAxisOf options).isPlain) = true
  · simp [plain] at member
  · simpa [plain] using member

end Chart

namespace Preset

variable {preset : Preset}

theorem visible_chart (checked : preset.options.check = .ok ()) (report : Report) :
    (preset.chart report).Visible := by
  obtain ⟨bars, titles⟩ := Options.check_eq_ok_iff.mp checked
  constructor
  · intro axis member
    rcases Chart.mem_axes_assemble member with rfl | rfl
    · exact bars
    · intro thin
      cases thin
  · intro title member
    cases member
    exact titles

theorem titled_chart (titled : preset.options.lacksTitle = false) (report : Report) :
    (preset.chart report).Titled := by
  intro title member shown
  cases member
  unfold Options.lacksTitle at titled
  change preset.options.showTitle = true at shown
  rw [shown, Bool.true_and] at titled
  change preset.options.title.isSome = true
  simpa using titled

theorem scaled_chart (preset : Preset) (report : Report) : (preset.chart report).Scaled := by
  unfold chart Chart.assemble Chart.displayOf Chart.Scaled Chart.scalesOf
  by_cases plain : ((Chart.xAxisOf preset.options).isPlain &&
      (Chart.yAxisOf preset.options).isPlain) = true
  · simp [plain]
  · refine .inr ⟨Chart.xAxisOf preset.options, Chart.yAxisOf preset.options, ?_, ?_, rfl⟩
    · simp only [plain]
      rfl
    · rw [Bool.and_eq_true, Chart.Axis.isPlain_iff, Chart.Axis.isPlain_iff] at plain
      exact Classical.not_and_iff_not_or_not.mp plain

theorem coloredBy_chart (preset : Preset) (report : Report) :
    (preset.chart report).ColoredBy preset.colors report := by
  apply List.ext_getElem?
  intro index
  simp [chart, Chart.assemble, Chart.dataOf, List.getElem?_mapIdx, Option.map_map,
    Function.comp_def]

end Preset

end ReportCharts
