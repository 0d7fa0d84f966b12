import ReportCharts.Proofs.Chart.Display
import ReportCharts.Proofs.Session.Runs

/-!
The axes of a pie.

None of the registered pies has an option that shows on the axes, and whether a chart has axes is told
by these options and not by its kind. So the axes of a pie are those of the options that are layered
over it: there are none as long as the layer leaves these options alone, and the layer's own ones
otherwise.
-/

namespace ReportCharts

/-- Nothing is given that shows on the axes; a flag may be given as off. -/
structure Overrides.Axisless (overrides : Overrides) : Prop where
  stacked : overrides.stacked ≠ some true
  barThickness : overrides.barThickness = none
  xAxisLabel : overrides.xAxisLabel = none
  yAxisLabel : overrides.yAxisLabel = none
  beginYAtZero : overrides.beginYAtZero ≠ some true

namespace Overrides

theorem getD_false_eq_false_iff {given : Option Bool} :
    given.getD false = false ↔ given ≠ some true := by
  rcases given with _ | _ | _ <;> simp

theorem axisless_applyTo_default_iff {overrides : Overrides} :
    (overrides.applyTo {}).Axisless ↔ overrides.Axisless := by
  constructor
  · rintro ⟨stacked, barThickness, xAxisLabel, yAxisLabel, beginYAtZero⟩
    refine ⟨getD_false_eq_false_iff.mp stacked, ?_, ?_, ?_, getD_false_eq_false_iff.mp beginYAtZero⟩
    · simpa [applyTo] using barThickness
    · simpa [applyTo] using xAxisLabel
    · simpa [applyTo] using yAxisLabel
  · rintro ⟨stacked, barThickness, xAxisLabel, yAxisLabel, beginYAtZero⟩
    refine ⟨getD_false_eq_false_iff.mpr stacked, ?_, ?_, ?_,
      getD_false_eq_false_iff.mpr beginYAtZero⟩
    · simp [applyTo, barThickness]
    · simp [applyTo, xAxisLabel]
    · simp [applyTo, yAxisLabel]

/-- Options without axes below a layer have no part in its axes. -/
theorem scalesOf_applyTo {base : Options} (axisless : base.Axisless) (overrides : Overrides) :
    Chart.scalesOf (overrides.applyTo base) = Chart.scalesOf (overrides.applyTo {}) := by
  obtain ⟨stacked, barThickness, xAxisLabel, yAxisLabel, beginYAtZero⟩ := axisless
  cases base
  subst stacked barThickness xAxisLabel yAxisLabel beginYAtZero
  rfl

end Overrides

namespace Preset

theorem axisless_of_pie {name : String} {base : Preset} (found : find? name = some base)
    (pie : base.kind = .pie) : base.options.Axisless := by
  -- the kind does not say so: it is a fact about the presets that are registered
  have every : ∀ preset ∈ registry, preset.kind = .pie → Chart.scalesOf preset.options = none := by
    decide
  exact Chart.scalesOf_eq_none_iff.mp (every base (find?_mem found).1 pie)

theorem layered_eq_withOverrides (preset : Preset) (overrides : Option Overrides) :
    preset.layered overrides = preset.withOverrides (overrides.getD .unset) := by
  cases overrides <;> rfl

theorem scalesOf_of_pie {name : String} {overrides : Option Overrides} {preset : Preset}
    (resolved : resolve name overrides = .ok preset) (pie : preset.kind = .pie) :
    Chart.scalesOf preset.options = Chart.scalesOf ((overrides.getD .unset).applyTo {}) := by
  obtain ⟨base, found, rfl, -, -⟩ := resolve_eq_ok_iff.mp resolved
  rw [layered_eq_withOverrides] at pie ⊢
  exact Overrides.scalesOf_applyTo (axisless_of_pie found pie) (overrides.getD .unset)

/-- The charts that a rendering asks a fresh drawer for, which may be out of order. -/
def asked (preset : Preset) (report : Report) (mode : Strictness) (failure : Option String) :
    List Chart :=
  (preset.render Drawer.draw ⟨[], [], failure⟩ report mode).drawer.asked

variable {preset : Preset} {report : Report} {mode : Strictness} {failure : Option String}

theorem asked_of_admits (admits : preset.Admits report mode) :
    preset.asked report mode failure = [preset.chart report] := by
  rw [asked, (render_of_admits Drawer.draw _ admits).2, Session.asked_draw, List.nil_append]

theorem eq_chart_of_mem_asked {chart : Chart} (member : chart ∈ preset.asked report mode failure) :
    chart = preset.chart report := by
  by_cases admits : preset.Admits report mode
  · rw [asked_of_admits admits] at member
    exact List.mem_singleton.mp member
  · rw [asked, (render_of_not_admits Drawer.draw _ admits).2] at member
    cases member

/-- What a layer of options makes of the axes of a pie's charts. -/
structure PieAxes (overrides : Overrides) (chart : Chart) : Prop where
  pie : chart.kind = .pie
  scales : chart.display.scales = Chart.scalesOf (overrides.applyTo {})
  absent : chart.display.scales = none ↔ overrides.Axisless

/--
A pie that is resolved by its name is drawn without axes exactly if the options layered over it leave
alone all that shows on axes; whatever of it they give is drawn.
-/
theorem pieAxes_of_resolve {name : String} {overrides : Option Overrides}
    (resolved : resolve name overrides = .ok preset) (pie : preset.kind = .pie) (report : Report)
    (failure : Option String) :
    (∃ chart, preset.asked report .permissive failure = [chart]) ∧
      ∀ mode, ∀ chart ∈ preset.asked report mode failure,
        PieAxes (overrides.getD .unset) chart := by
  constructor
  · obtain ⟨-, -, -, -, checked⟩ := resolve_eq_ok_iff.mp resolved
    obtain ⟨bars, titles⟩ := Options.check_eq_ok_iff.mp checked
    exact ⟨_, asked_of_admits ⟨bars, titles, nofun⟩⟩
  · intro mode chart member
    obtain rfl := eq_chart_of_mem_asked member
    have scales : (preset.chart report).display.scales =
        Chart.scalesOf ((overrides.getD .unset).applyTo {}) := scalesOf_of_pie resolved pie
    refine ⟨pie, scales, ?_⟩
    rw [scales, Chart.scalesOf_eq_none_iff, Overrides.axisless_applyTo_default_iff]

theorem pieAxes_of_resolve_platforms :
    let layer : Overrides := { title := some "Platforms", xAxisLabel := some "", stacked := some false }
    let preset := (stats none).withOverrides layer
    let report : Report := .single "raw" ["x86"] []
    resolve "stats" (some layer) = .ok preset ∧ preset.kind = .pie ∧
      ∃ chart, preset.asked report .permissive none = [chart] ∧ PieAxes layer chart ∧
        chart.display.scales ≠ none := by
  intro layer preset report
  have resolved : resolve "stats" (some layer) = .ok preset := rfl
  obtain ⟨⟨chart, drawn⟩, axes⟩ := pieAxes_of_resolve resolved rfl report none
  have member : chart ∈ preset.asked report .permissive none := by
    rw [drawn]
    exact List.mem_singleton_self chart
  have pie : PieAxes layer chart := axes .permissive chart member
  refine ⟨resolved, rfl, chart, drawn, pie, ?_⟩
  intro none
  cases (pie.absent.mp none).xAxisLabel

/-- Stacking is enough for a pie to have axes. -/
theorem stacked_pie_has_axes :
    ∃ preset, resolve "crash-classification" (some { stacked := some true }) = .ok preset ∧
      preset.kind = .pie ∧
      ∃ chart ∈ preset.asked .empty .strict none, chart.display.scales ≠ none := by
  refine ⟨_, rfl, rfl, _, List.mem_singleton_self _, ?_⟩
  decide

end Preset

end ReportCharts
