import ReportCharts.Assembly

/-!
What a chart says about the options that it was assembled with.

Every option can be read off the chart again, from a place of its own. The axes are the one block that
may be left out; it is left out only when none of the five options that show in it is set.
-/

namespace ReportCharts

/-- None of the options that show on the axes is set. -/
structure Options.Axisless (options : Options) : Prop where
  stacked : options.stacked = false
  barThickness : options.barThickness = none
  xAxisLabel : options.xAxisLabel = none
  yAxisLabel : options.yAxisLabel = none
  beginYAtZero : options.beginYAtZero = false

namespace Chart

theorem ite_some_true_eq_none_iff {stacked : Bool} :
    (if stacked then some true else none) = none ↔ stacked = false := by
  cases stacked <;> simp

theorem xAxisOf_eq_plain_iff {options : Options} :
    xAxisOf options = .plain ↔
      options.stacked = false ∧ options.xAxisLabel = none ∧ options.barThickness = none := by
  rw [xAxisOf, Axis.plain, Axis.mk.injEq, ite_some_true_eq_none_iff, Option.map_eq_none_iff]
  simp

theorem yAxisOf_eq_plain_iff {options : Options} :
    yAxisOf options = .plain ↔
      options.stacked = false ∧ options.yAxisLabel = none ∧ options.beginYAtZero = false := by
  rw [yAxisOf, Axis.plain, Axis.mk.injEq, ite_some_true_eq_none_iff, Option.map_eq_none_iff]
  simp

theorem scalesOf_of_axisless {options : Options} (axisless : options.Axisless) :
    scalesOf options = none := by
  have x : xAxisOf options = .plain :=
    xAxisOf_eq_plain_iff.mpr ⟨axisless.stacked, axisless.xAxisLabel, axisless.barThickness⟩
  have y : yAxisOf options = .plain :=
    yAxisOf_eq_plain_iff.mpr ⟨axisless.stacked, axisless.yAxisLabel, axisless.beginYAtZero⟩
  rw [scalesOf, x, y]
  rfl

theorem scalesOf_of_not_axisless {options : Options} (shown : ¬options.Axisless) :
    scalesOf options = some ⟨[xAxisOf options], [yAxisOf options]⟩ := by
  apply if_neg
  rw [Bool.and_eq_true, Axis.isPlain_iff, Axis.isPlain_iff, xAxisOf_eq_plain_iff,
    yAxisOf_eq_plain_iff]
  rintro ⟨⟨stacked, xAxisLabel, barThickness⟩, -, yAxisLabel, beginYAtZero⟩
  exact shown ⟨stacked, barThickness, xAxisLabel, yAxisLabel, beginYAtZero⟩

theorem scalesOf_eq_none_iff {options : Options} :
    scalesOf options = none ↔ options.Axisless := by
  constructor
  · intro absent
    by_cases axisless : options.Axisless
    · exact axisless
    · rw [scalesOf_of_not_axisless axisless] at absent
      cases absent
  · exact scalesOf_of_axisless

section

variable (kind : ChartKind) (report : Report) (options : Options) (scheme : ColorScheme)
  (label : Option String)

/-- An axis that is left out would have been plain. -/
theorem xAxis?_assemble :
    (assemble kind report options scheme label).xAxis?.getD .plain = xAxisOf options := by
  by_cases axisless : options.Axisless
  · have absent := scalesOf_of_axisless axisless
    rw [xAxis?, assemble, displayOf, absent]
    exact (xAxisOf_eq_plain_iff.mpr
      ⟨axisless.stacked, axisless.xAxisLabel, axisless.barThickness⟩).symm
  · have present := scalesOf_of_not_axisless axisless
    rw [xAxis?, assemble, displayOf, present]
    rfl

theorem yAxis?_assemble :
    (assemble kind report options scheme label).yAxis?.getD .plain = yAxisOf options := by
  by_cases axisless : options.Axisless
  · have absent := scalesOf_of_axisless axisless
    rw [yAxis?, assemble, displayOf, absent]
    exact (yAxisOf_eq_plain_iff.mpr
      ⟨axisless.stacked, axisless.yAxisLabel, axisless.beginYAtZero⟩).symm
  · have present := scalesOf_of_not_axisless axisless
    rw [yAxis?, assemble, displayOf, present]
    rfl

end

def toOptions (chart : Chart) : Options where
  title := chart.display.title.bind Title.text
  showTitle := chart.display.title.any Title.display
  titleFontSize := chart.display.title.bind Title.fontSize
  showLegend := chart.legendDisplayed
  legendPosition := chart.display.legend.bind Legend.position
  stacked := (chart.xAxis?.getD .plain).stacked.getD false
  barThickness := (chart.xAxis?.getD .plain).barThickness
  yAxisLabel := (chart.yAxis?.getD .plain).label.map AxisLabel.text
  xAxisLabel := (chart.xAxis?.getD .plain).label.map AxisLabel.text
  beginYAtZero := (chart.yAxis?.getD .plain).beginsAtZero
  responsive := chart.display.responsive

theorem toOptions_congr {one other : Chart} (same : one.display = other.display) :
    one.toOptions = other.toOptions := by
  unfold toOptions legendDisplayed xAxis? yAxis?
  rw [same]

theorem map_text_italic (text : Option String) :
    (text.map AxisLabel.italic).map AxisLabel.text = text := by
  rw [Option.map_map]
  exact congrFun Option.map_id text

theorem beginsAtZero_yAxisOf (options : Options) :
    (yAxisOf options).beginsAtZero = options.beginYAtZero := by
  rw [yAxisOf, Axis.beginsAtZero]
  cases options.beginYAtZero <;> rfl

theorem stacked_xAxisOf (options : Options) :
    (xAxisOf options).stacked.getD false = options.stacked := by
  rw [xAxisOf]
  cases options.stacked <;> rfl

/-- Nothing is lost: the options come back from the chart that they were assembled into. -/
theorem toOptions_assemble (kind : ChartKind) (report : Report) (options : Options)
    (scheme : ColorScheme) (label : Option String) :
    (assemble kind report options scheme label).toOptions = options := by
  rw [toOptions, xAxis?_assemble, yAxis?_assemble, stacked_xAxisOf, beginsAtZero_yAxisOf,
    show (xAxisOf options).label.map AxisLabel.text = options.xAxisLabel from map_text_italic _,
    show (yAxisOf options).label.map AxisLabel.text = options.yAxisLabel from map_text_italic _]
  rfl

theorem stacked_axes (options : Options) :
    options.stacked = true ∧ (xAxisOf options).stacked = some true ∧
        (yAxisOf options).stacked = some true ∨
      options.stacked = false ∧ (xAxisOf options).stacked = none ∧
        (yAxisOf options).stacked = none := by
  unfold xAxisOf yAxisOf
  cases stacked : options.stacked with
  | true => exact .inl ⟨rfl, rfl, rfl⟩
  | false => exact .inr ⟨rfl, rfl, rfl⟩

theorem any_beginsAtZero (axis : Option Axis) :
    axis.any Axis.beginsAtZero = (axis.getD .plain).beginsAtZero := by
  cases axis <;> rfl

/-- What a chart lets see of its options: both axes or none of them, the legend and the origin. -/
structure Shows (chart : Chart) (options : Options) : Prop where
  axisless : chart.display.scales = none ↔ options.Axisless
  axes : options.Axisless ∨ ∃ x y, chart.display.scales = some ⟨[x], [y]⟩ ∧
    (options.stacked = true ∧ x.stacked = some true ∧ y.stacked = some true ∨
      options.stacked = false ∧ x.stacked = none ∧ y.stacked = none)
  legend : chart.legendDisplayed = options.showLegend
  origin : chart.yAxis?.any Axis.beginsAtZero = options.beginYAtZero

theorem assemble_shows (kind : ChartKind) (report : Report) (options : Options)
    (scheme : ColorScheme) (label : Option String) :
    (assemble kind report options scheme label).Shows options where
  axisless := scalesOf_eq_none_iff
  axes := by
    by_cases axisless : options.Axisless
    · exact .inl axisless
    · right
      exact ⟨_, _, scalesOf_of_not_axisless axisless, stacked_axes options⟩
  legend := rfl
  origin := by rw [any_beginsAtZero, yAxis?_assemble, beginsAtZero_yAxisOf]

/--
The display block of a chart tells its options from all others, whatever else the charts are
assembled from.
-/
theorem display_tells_options (kind : ChartKind) (report : Report) (options : Options)
    (scheme : ColorScheme) (label : Option String) :
    (assemble kind report options scheme label).Shows options ∧
      ∀ otherKind otherReport otherOptions otherScheme otherLabel,
        (assemble kind report options scheme label).display =
            (assemble otherKind otherReport otherOptions otherScheme otherLabel).display ↔
          options = otherOptions := by
  refine ⟨assemble_shows kind report options scheme label, ?_⟩
  intro otherKind otherReport otherOptions otherScheme otherLabel
  constructor
  · intro same
    calc options
      _ = (assemble kind report options scheme label).toOptions :=
          (toOptions_assemble kind report options scheme label).symm
      _ = (assemble otherKind otherReport otherOptions otherScheme otherLabel).toOptions :=
          toOptions_congr same
      _ = otherOptions :=
          toOptions_assemble otherKind otherReport otherOptions otherScheme otherLabel
  · rintro rfl
    rfl

end Chart

end ReportCharts
