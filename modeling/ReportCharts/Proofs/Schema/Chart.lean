import ReportCharts.Proofs.Json.Sound
import ReportCharts.Schema.Chart

/-!
Chart configurations with all that is nested in them, read back from what they are written as.

Only the values of the datasets are doubles; every other part comes back unconditionally.
-/

namespace ReportCharts

open Json

theorem ChartKind.roundTrips {need : Nat} : ChartKind.shape.RoundTrips Shape.Any need :=
  .named fun kind => by cases kind <;> rfl

theorem LegendPosition.roundTrips {need : Nat} : LegendPosition.shape.RoundTrips Shape.Any need :=
  .named fun position => by cases position <;> rfl

namespace Chart

namespace Fill

theorem depth_write (fill : Fill) : (Fill.shape.write fill).depth ≤ 1 := by
  have flat (colors : List String) : Value.itemsDepth (colors.map Shape.string.write) = 0 := by
    induction colors with
    | nil => rfl
    | cons color colors inductionHypothesis =>
        rw [List.map_cons, Value.itemsDepth, inductionHypothesis]
        rfl
  cases fill with
  | single color => exact Nat.zero_le 1
  | perCategory colors => simp [Fill.shape, write, Shape.list, Value.depth, flat colors]

theorem given_shape : Fill.shape.Given := fun fill => by cases fill <;> rfl

/-- A list is no text, so neither kind of fill is taken for the other. -/
theorem roundTrips {need : Nat} : Fill.shape.RoundTrips Shape.Any (need + 1) := by
  intro fill _ tree same room enough
  have shallow : tree.depth < room := by
    have written := depth_write fill
    have reordered := Value.Reordered.depth_le same
    omega
  have known : ofDocument? room tree.document = some fill := by
    cases fill with
    | single color =>
        cases same
        rfl
    | perCategory colors =>
        have trip : (Shape.list .string).RoundTrips (fun colors => ∀ color ∈ colors, Shape.Any color)
            (0 + 1) := .list .string
        have read := trip colors (fun _ _ => trivial) tree same room (by omega)
        obtain ⟨others, rfl, -⟩ := same
        simp only [Value.document] at read ⊢
        simp only [ofDocument?, read]
        rfl
  simp only [Fill.shape, Value.check_document shallow, known, bind, Except.bind]
  rfl

end Fill

namespace Dataset

def Finite (dataset : Dataset) : Prop := ∀ value ∈ dataset.values, value.isFinite = true

theorem roundTrips {need : Nat} : Dataset.shape.RoundTrips Finite (need + 2) :=
  (Record.RoundTrips.start
    |>.required .string (fun _ _ => trivial)
    |>.omittable Fill.roundTrips Fill.given_shape (fun _ _ _ _ => trivial)
    |>.required (.list .double) (fun _ finite => finite)).shape (by decide) fun _ => rfl

theorem yields : Dataset.shape.Yields Finite :=
  (Record.Yields.start (fun _ _ _ _ finite => finite)
    |>.required (Shape.yields_any _)
    |>.omittable
    |>.required Shape.yields_double.list).shape

end Dataset

namespace Data

def Finite (data : Data) : Prop := ∀ dataset ∈ data.datasets, dataset.Finite

theorem roundTrips {need : Nat} : Data.shape.RoundTrips Finite (need + 4) :=
  (Record.RoundTrips.start
    |>.required (.list .string) (fun _ _ _ _ => trivial)
    |>.required (.list Dataset.roundTrips) (fun _ finite => finite)).shape (by decide) fun _ => rfl

theorem yields : Data.shape.Yields Finite :=
  (Record.Yields.start (fun _ _ _ finite => finite)
    |>.required (Shape.yields_any _)
    |>.required Dataset.yields.list).shape

end Data

theorem Legend.roundTrips {need : Nat} : Legend.shape.RoundTrips Shape.Any (need + 1) :=
  (Record.RoundTrips.start
    |>.omittable .bool Shape.given_bool (fun _ _ _ _ => trivial)
    |>.omittable LegendPosition.roundTrips Shape.given_named (fun _ _ _ _ => trivial)).shape
      (by decide) fun _ => rfl

theorem Title.roundTrips {need : Nat} : Title.shape.RoundTrips Shape.Any (need + 1) :=
  (Record.RoundTrips.start
    |>.required .bool (fun _ _ => trivial)
    |>.omittable .string Shape.given_string (fun _ _ _ _ => trivial)
    |>.omittable .uint32 Shape.given_uint32 (fun _ _ _ _ => trivial)).shape (by decide) fun _ => rfl

theorem AxisLabel.roundTrips {need : Nat} : AxisLabel.shape.RoundTrips Shape.Any (need + 1) :=
  (Record.RoundTrips.start
    |>.required .bool (fun _ _ => trivial)
    |>.required .string (fun _ _ => trivial)
    |>.required .uint32 (fun _ _ => trivial)
    |>.required .string (fun _ _ => trivial)).shape (by decide) fun _ => rfl

theorem Ticks.roundTrips {need : Nat} : Ticks.shape.RoundTrips Shape.Any (need + 1) :=
  (Record.RoundTrips.start |>.required .bool (fun _ _ => trivial)).shape (by decide) fun _ => rfl

theorem Axis.roundTrips {need : Nat} : Axis.shape.RoundTrips Shape.Any (need + 2) :=
  (Record.RoundTrips.start
    |>.omittable .bool Shape.given_bool (fun _ _ _ _ => trivial)
    |>.omittable AxisLabel.roundTrips Shape.given_record (fun _ _ _ _ => trivial)
    |>.omittable .uint32 Shape.given_uint32 (fun _ _ _ _ => trivial)
    |>.omittable Ticks.roundTrips Shape.given_record (fun _ _ _ _ => trivial)).shape
      (by decide) fun _ => rfl

theorem Scales.roundTrips {need : Nat} : Scales.shape.RoundTrips Shape.Any (need + 4) :=
  (Record.RoundTrips.start
    |>.required (.list Axis.roundTrips) (fun _ _ _ _ => trivial)
    |>.required (.list Axis.roundTrips) (fun _ _ _ _ => trivial)).shape (by decide) fun _ => rfl

theorem Display.roundTrips {need : Nat} : Display.shape.RoundTrips Shape.Any (need + 5) :=
  (Record.RoundTrips.start
    |>.omittable Legend.roundTrips Shape.given_record (fun _ _ _ _ => trivial)
    |>.omittable Title.roundTrips Shape.given_record (fun _ _ _ _ => trivial)
    |>.omittable .bool Shape.given_bool (fun _ _ _ _ => trivial)
    |>.omittable Scales.roundTrips Shape.given_record (fun _ _ _ _ => trivial)).shape
      (by decide) fun _ => rfl

def Finite (chart : Chart) : Prop := chart.data.Finite

theorem roundTrips {need : Nat} : Chart.shape.RoundTrips Finite (need + 6) :=
  (Record.RoundTrips.start
    |>.required ChartKind.roundTrips (fun _ _ => trivial)
    |>.required Data.roundTrips (fun _ finite => finite)
    |>.required Display.roundTrips (fun _ _ => trivial)).shape (by decide) fun _ => rfl

theorem yields : Chart.shape.Yields Finite :=
  (Record.Yields.start (fun _ _ _ finite _ _ => finite)
    |>.required (Shape.yields_any _)
    |>.required Data.yields
    |>.required (Shape.yields_any _)).shape

end Chart

end ReportCharts
