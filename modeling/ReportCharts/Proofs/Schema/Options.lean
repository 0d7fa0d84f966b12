import ReportCharts.Proofs.Json.Written
import ReportCharts.Proofs.Schema.Chart
import ReportCharts.Schema.Options

/-!
Display options, partial options and presets, read back from what they are written as.

No condition is needed: an option that is not set comes back unset, whether it is written as null or
left out. Neither options nor partial options hold doubles, so a text of them is the text of a value
whose numbers are integers.
-/

namespace ReportCharts

open Json

theorem Options.roundTrips {need : Nat} : Options.shape.RoundTrips Shape.Any (need + 1) :=
  (Record.RoundTrips.start
    |>.nullable .string Shape.given_string (fun _ _ _ _ => trivial)
    |>.required .bool (fun _ _ => trivial)
    |>.nullable .uint32 Shape.given_uint32 (fun _ _ _ _ => trivial)
    |>.required .bool (fun _ _ => trivial)
    |>.nullable LegendPosition.roundTrips Shape.given_named (fun _ _ _ _ => trivial)
    |>.required .bool (fun _ _ => trivial)
    |>.nullable .uint32 Shape.given_uint32 (fun _ _ _ _ => trivial)
    |>.nullable .string Shape.given_string (fun _ _ _ _ => trivial)
    |>.nullable .string Shape.given_string (fun _ _ _ _ => trivial)
    |>.required .bool (fun _ _ => trivial)
    |>.nullable .bool Shape.given_bool (fun _ _ _ _ => trivial)).shape (by decide) fun _ => rfl

theorem Options.whole : Options.shape.Whole Shape.Any :=
  (Record.Whole.start
    |>.nullable Shape.whole_string (fun _ _ _ _ => trivial)
    |>.required Shape.whole_bool (fun _ _ => trivial)
    |>.nullable Shape.whole_uint32 (fun _ _ _ _ => trivial)
    |>.required Shape.whole_bool (fun _ _ => trivial)
    |>.nullable Shape.whole_named (fun _ _ _ _ => trivial)
    |>.required Shape.whole_bool (fun _ _ => trivial)
    |>.nullable Shape.whole_uint32 (fun _ _ _ _ => trivial)
    |>.nullable Shape.whole_string (fun _ _ _ _ => trivial)
    |>.nullable Shape.whole_string (fun _ _ _ _ => trivial)
    |>.required Shape.whole_bool (fun _ _ => trivial)
    |>.nullable Shape.whole_bool (fun _ _ _ _ => trivial)).shape

theorem Overrides.roundTrips {need : Nat} : Overrides.shape.RoundTrips Shape.Any (need + 1) :=
  (Record.RoundTrips.start
    |>.omittable .string Shape.given_string (fun _ _ _ _ => trivial)
    |>.omittable .bool Shape.given_bool (fun _ _ _ _ => trivial)
    |>.omittable .uint32 Shape.given_uint32 (fun _ _ _ _ => trivial)
    |>.omittable .bool Shape.given_bool (fun _ _ _ _ => trivial)
    |>.omittable LegendPosition.roundTrips Shape.given_named (fun _ _ _ _ => trivial)
    |>.omittable .bool Shape.given_bool (fun _ _ _ _ => trivial)
    |>.omittable .uint32 Shape.given_uint32 (fun _ _ _ _ => trivial)
    |>.omittable .string Shape.given_string (fun _ _ _ _ => trivial)
    |>.omittable .string Shape.given_string (fun _ _ _ _ => trivial)
    |>.omittable .bool Shape.given_bool (fun _ _ _ _ => trivial)
    |>.omittable .bool Shape.given_bool (fun _ _ _ _ => trivial)).shape (by decide) fun _ => rfl

theorem Overrides.whole : Overrides.shape.Whole Shape.Any :=
  (Record.Whole.start
    |>.omittable Shape.whole_string (fun _ _ _ _ => trivial)
    |>.omittable Shape.whole_bool (fun _ _ _ _ => trivial)
    |>.omittable Shape.whole_uint32 (fun _ _ _ _ => trivial)
    |>.omittable Shape.whole_bool (fun _ _ _ _ => trivial)
    |>.omittable Shape.whole_named (fun _ _ _ _ => trivial)
    |>.omittable Shape.whole_bool (fun _ _ _ _ => trivial)
    |>.omittable Shape.whole_uint32 (fun _ _ _ _ => trivial)
    |>.omittable Shape.whole_string (fun _ _ _ _ => trivial)
    |>.omittable Shape.whole_string (fun _ _ _ _ => trivial)
    |>.omittable Shape.whole_bool (fun _ _ _ _ => trivial)
    |>.omittable Shape.whole_bool (fun _ _ _ _ => trivial)).shape

theorem ColorScheme.roundTrips {need : Nat} : ColorScheme.shape.RoundTrips Shape.Any need :=
  .named fun scheme => by cases scheme <;> rfl

theorem Preset.roundTrips {need : Nat} : Preset.shape.RoundTrips Shape.Any (need + 2) :=
  (Record.RoundTrips.start
    |>.required .string (fun _ _ => trivial)
    |>.required .string (fun _ _ => trivial)
    |>.required ChartKind.roundTrips (fun _ _ => trivial)
    |>.nullable .string Shape.given_string (fun _ _ _ _ => trivial)
    |>.required ColorScheme.roundTrips (fun _ _ => trivial)
    |>.required Options.roundTrips (fun _ _ => trivial)).shape (by decide) fun _ => rfl

end ReportCharts
