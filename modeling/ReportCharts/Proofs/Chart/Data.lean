import ReportCharts.Assembly

/-!
What a chart keeps of the report that it was assembled from.

Every series becomes one dataset in its place, with its values as they are, whether or not there is one
of them for every label. Colours go by position, that of the category or that of the series, and only a
colour of a series' own comes before them.
-/

namespace ReportCharts.Chart

def datasetOf (report : Report) (scheme : ColorScheme) (label : Option String) (index : Nat)
    (series : Series) : Dataset where
  label := labelOf (report.series.length == 1) label series
  fill := some (fillOf scheme report.labels.length index series)
  values := series.values

/-- What the dataset of a series says of it: its values, and a label that only one alone can lose. -/
structure Dataset.Plots (dataset : Dataset) (series : Series) (alone : Prop)
    (label : Option String) : Prop where
  values : dataset.values = series.values
  given : ∀ text, label = some text → alone → dataset.label = text
  own : label = none ∨ ¬alone → dataset.label = series.label

variable {report : Report} {scheme : ColorScheme} {label : Option String}

theorem getElem?_datasets (index : Nat) :
    (dataOf report scheme label).datasets[index]? =
      (report.series[index]?).map (datasetOf report scheme label index) := by
  rw [dataOf, List.getElem?_mapIdx]
  rfl

theorem length_datasets :
    (dataOf report scheme label).datasets.length = report.series.length := by
  rw [dataOf, List.length_mapIdx]

theorem datasetOf_plots (index : Nat) (series : Series) :
    (datasetOf report scheme label index series).Plots series (report.series.length = 1)
      label where
  values := rfl
  given text given alone := by
    subst given
    rw [datasetOf, labelOf, if_pos (beq_iff_eq.mpr alone)]
    rfl
  own kept := by
    rw [datasetOf, labelOf]
    rcases kept with rfl | several
    · exact ite_self _
    · rw [if_neg (fun alone => several (beq_iff_eq.mp alone))]

theorem exists_of_mem_datasets {dataset : Dataset}
    (member : dataset ∈ (dataOf report scheme label).datasets) :
    ∃ index series, report.series[index]? = some series ∧
      dataset = datasetOf report scheme label index series := by
  obtain ⟨index, here⟩ := List.mem_iff_getElem?.mp member
  rw [getElem?_datasets] at here
  obtain ⟨series, there, same⟩ := Option.map_eq_some_iff.mp here
  exact ⟨index, series, there, same.symm⟩

/-- As many colours as there are categories, the same ones at every fifteenth. -/
def Dataset.ColoredByCategory (dataset : Dataset) (categories : Nat) : Prop :=
  ∃ colors, dataset.fill = some (.perCategory colors) ∧ colors.length = categories ∧
    ∀ first second, first < categories → second < categories →
      (colors[first]? = colors[second]? ↔ first % 15 = second % 15)

/-- The colour of a series' own, or one that every fifteenth of those without shares. -/
structure Data.ColoredBySeries (data : Data) (report : Report) : Prop where
  single : ∀ (index : Nat) (series : Series), report.series[index]? = some series →
    ∃ (dataset : Dataset) (color : String), data.datasets[index]? = some dataset ∧
      dataset.fill = some (.single color) ∧ ∀ own, series.color = some own → color = own
  shared : ∀ (first second : Nat) (series other : Series), report.series[first]? = some series →
    report.series[second]? = some other → series.color = none → other.color = none →
      ((data.datasets[first]?).bind Dataset.fill = (data.datasets[second]?).bind Dataset.fill ↔
        first % 15 = second % 15)

theorem coloredByCategory_datasetOf (index : Nat) (series : Series) :
    (datasetOf report .perCategory label index series).ColoredByCategory report.labels.length := by
  refine ⟨_, rfl, Palette.length_firstColors report.labels.length, ?_⟩
  intro first second insideFirst insideSecond
  rw [Palette.getElem?_firstColors insideFirst, Palette.getElem?_firstColors insideSecond,
    Option.some.injEq]
  exact Palette.color_eq_color_iff

theorem fill_datasetOf_of_uncolored {series : Series} (uncolored : series.color = none)
    (index : Nat) :
    (datasetOf report .perSeries label index series).fill =
      some (.single (Palette.color index)) := by
  rw [datasetOf, fillOf, uncolored]
  rfl

theorem coloredBySeries_dataOf : (dataOf report .perSeries label).ColoredBySeries report where
  single index series here := by
    refine ⟨datasetOf report .perSeries label index series, _, ?_, rfl, ?_⟩
    · rw [getElem?_datasets, here]
      rfl
    · intro own colored
      rw [colored]
      rfl
  shared first second series other here there uncolored uncoloredOther := by
    rw [getElem?_datasets, getElem?_datasets, here, there, Option.map_some, Option.map_some,
      Option.bind_some, Option.bind_some, fill_datasetOf_of_uncolored uncolored,
      fill_datasetOf_of_uncolored uncoloredOther, Option.some.injEq, Fill.single.injEq]
    exact Palette.color_eq_color_iff

/-- The report in a data block, every series in its place and coloured under a scheme. -/
structure Data.Keeps (data : Data) (report : Report) (scheme : ColorScheme)
    (label : Option String) : Prop where
  labels : data.labels = report.labels
  length : data.datasets.length = report.series.length
  plots : ∀ (index : Nat) series, report.series[index]? = some series →
    ∃ dataset : Dataset, data.datasets[index]? = some dataset ∧
      dataset.Plots series (report.series.length = 1) label
  byCategory : scheme = .perCategory →
    ∀ dataset ∈ data.datasets, dataset.ColoredByCategory report.labels.length
  bySeries : scheme = .perSeries → data.ColoredBySeries report

theorem keeps_dataOf (report : Report) (scheme : ColorScheme) (label : Option String) :
    (dataOf report scheme label).Keeps report scheme label where
  labels := rfl
  length := length_datasets
  plots index series here := by
    refine ⟨datasetOf report scheme label index series, ?_, datasetOf_plots index series⟩
    rw [getElem?_datasets, here]
    rfl
  byCategory scheme dataset member := by
    subst scheme
    obtain ⟨index, series, -, rfl⟩ := exists_of_mem_datasets member
    exact coloredByCategory_datasetOf index series
  bySeries scheme := by
    subst scheme
    exact coloredBySeries_dataOf

/-- A report passes its check exactly when every dataset of its charts has one value per label. -/
theorem checkLengths_eq_ok_iff_datasets :
    report.checkLengths = .ok () ↔ ∀ dataset ∈ (dataOf report scheme label).datasets,
      dataset.values.length = report.labels.length := by
  rw [Report.checkLengths_eq_ok_iff]
  constructor
  · intro wellFormed dataset member
    obtain ⟨index, series, here, rfl⟩ := exists_of_mem_datasets member
    exact wellFormed series (List.mem_of_getElem? here)
  · intro rectangular series member
    obtain ⟨index, here⟩ := List.mem_iff_getElem?.mp member
    apply rectangular (datasetOf report scheme label index series)
    apply List.mem_of_getElem? (i := index)
    rw [getElem?_datasets, here]
    rfl

/--
The data block of a chart holds its report whole and coloured by position, whatever the options are, and
the display block holds its options, whatever the report is.
-/
theorem data_keeps_report (kind : ChartKind) (report : Report) (options : Options)
    (scheme : ColorScheme) (label : Option String) :
    (assemble kind report options scheme label).data.Keeps report scheme label ∧
      (report.checkLengths = .ok () ↔
        ∀ dataset ∈ (assemble kind report options scheme label).data.datasets,
          dataset.values.length = report.labels.length) ∧
      (∀ otherKind otherOptions, (assemble otherKind report otherOptions scheme label).data =
        (assemble kind report options scheme label).data) ∧
      ∀ otherKind otherReport otherScheme otherLabel,
        (assemble otherKind otherReport options otherScheme otherLabel).display =
          (assemble kind report options scheme label).display := by
  refine ⟨keeps_dataOf report scheme label, checkLengths_eq_ok_iff_datasets, ?_, ?_⟩
  · intro otherKind otherOptions
    rfl
  · intro otherKind otherReport otherScheme otherLabel
    rfl

end ReportCharts.Chart
