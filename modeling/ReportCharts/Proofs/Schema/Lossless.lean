import ReportCharts.Proofs.Schema.ChartFault
import ReportCharts.Proofs.Schema.Options
import ReportCharts.Proofs.Schema.Report

/-!
The whole data model, read back from what it is written as.
-/

namespace ReportCharts

open Json

/--
Every value is read back from the tree that it is written as, in whatever order the members of
objects stand in that tree, as long as all its doubles are finite; what a text holds is such a value
already.
-/
theorem dataModel_lossless :
    Series.shape.Lossless Series.Finite 6 ∧
    Report.shape.Lossless Report.Finite 6 ∧
    Cell.shape.Lossless Cell.Finite 6 ∧
    Chart.shape.Lossless Chart.Finite 6 ∧
    Chart.Data.shape.Lossless Chart.Data.Finite 6 ∧
    Chart.Dataset.shape.Lossless Chart.Dataset.Finite 6 ∧
    Chart.Fill.shape.Lossless Shape.Any 6 ∧
    Chart.Display.shape.Lossless Shape.Any 6 ∧
    Chart.Legend.shape.Lossless Shape.Any 6 ∧
    Chart.Title.shape.Lossless Shape.Any 6 ∧
    Chart.Scales.shape.Lossless Shape.Any 6 ∧
    Chart.Axis.shape.Lossless Shape.Any 6 ∧
    Chart.AxisLabel.shape.Lossless Shape.Any 6 ∧
    Chart.Ticks.shape.Lossless Shape.Any 6 ∧
    Options.shape.Lossless Shape.Any 6 ∧
    Overrides.shape.Lossless Shape.Any 6 ∧
    Preset.shape.Lossless Shape.Any 6 ∧
    ChartFault.shape.Lossless ChartFault.Sized 6 := by
  refine ⟨?_, ?_, ?_, ?_, ?_, ?_, ?_, ?_, ?_, ?_, ?_, ?_, ?_, ?_, ?_, ?_, ?_, ?_⟩
  · exact Series.roundTrips.lossless Series.yields
  · exact Report.roundTrips.lossless Report.yields
  · exact Cell.roundTrips.lossless Cell.yields
  · exact Chart.roundTrips.lossless Chart.yields
  · exact Chart.Data.roundTrips.lossless Chart.Data.yields
  · exact Chart.Dataset.roundTrips.lossless Chart.Dataset.yields
  · exact Chart.Fill.roundTrips.lossless (Shape.yields_any _)
  · exact Chart.Display.roundTrips.lossless (Shape.yields_any _)
  · exact Chart.Legend.roundTrips.lossless (Shape.yields_any _)
  · exact Chart.Title.roundTrips.lossless (Shape.yields_any _)
  · exact Chart.Scales.roundTrips.lossless (Shape.yields_any _)
  · exact Chart.Axis.roundTrips.lossless (Shape.yields_any _)
  · exact Chart.AxisLabel.roundTrips.lossless (Shape.yields_any _)
  · exact Chart.Ticks.roundTrips.lossless (Shape.yields_any _)
  · exact Options.roundTrips.lossless (Shape.yields_any _)
  · exact Overrides.roundTrips.lossless (Shape.yields_any _)
  · exact Preset.roundTrips.lossless (Shape.yields_any _)
  · exact ChartFault.roundTrips.lossless ChartFault.yields

end ReportCharts
