import ReportCharts.Proofs.Json.Written
import ReportCharts.Proofs.Schema.ChartFault

/-!
Envelopes, read back from the text that is thrown to the page.

The metadata of a context is any value with sorted keys. A reader lets 127 brackets be open at
once, of which the envelope and its context take two.
-/

namespace ReportCharts

open Json

namespace ChartFault

theorem whole : ChartFault.shape.Whole Sized := by
  intro fault sized
  refine ⟨trivial, ?_, trivial⟩
  cases fault with
  | malformedReport series expected actual =>
      exact ⟨trivial, Shape.fits_of_lt sized.1, Shape.fits_of_lt sized.2, trivial⟩
  | invalidConfig message field =>
      cases field with
      | none => exact ⟨trivial, trivial, trivial⟩
      | some field => exact ⟨trivial, trivial, trivial⟩
  | invalidFormat expected actual => exact ⟨trivial, trivial, trivial⟩
  | dataParse message | unknownPreset message | interop message | internal message =>
      exact ⟨trivial, trivial⟩

end ChartFault

namespace Context

/-- The metadata is a value that keeps its members sorted and counts in 64 bits. -/
def Plain (context : Context) : Prop :=
  context.metadata.Whole ∧ context.metadata.Sorted ∧ context.metadata.depth ≤ 125

theorem roundTrips : Context.shape.RoundTrips Plain 126 :=
  (Record.RoundTrips.start
    |>.required .string (fun _ _ => trivial)
    |>.required .string (fun _ _ => trivial)
    |>.required .value (fun _ plain => plain)).shape (by decide) fun _ => rfl

theorem whole : Context.shape.Whole Plain :=
  (Record.Whole.start
    |>.required Shape.whole_string (fun _ _ => trivial)
    |>.required Shape.whole_string (fun _ _ => trivial)
    |>.required (fun _ whole => whole) (fun _ plain => plain.1)).shape

end Context

namespace Envelope

/-- The sizes of the fault have 64 bits, and the metadata of the context is plain. -/
def Plain (envelope : Envelope) : Prop :=
  envelope.fault.Sized ∧ ∀ context ∈ envelope.context, context.Plain

theorem roundTrips : Envelope.shape.RoundTrips Plain 127 :=
  (Record.RoundTrips.start
    |>.required .bool (fun _ _ => trivial)
    |>.required ChartFault.roundTrips (fun _ plain => plain.1)
    |>.required .uint64 (fun _ _ => trivial)
    |>.nullable Context.roundTrips Shape.given_record (fun _ plain => plain.2)).shape
      (by decide) fun _ => rfl

theorem whole : Envelope.shape.Whole Plain :=
  (Record.Whole.start
    |>.required Shape.whole_bool (fun _ _ => trivial)
    |>.required ChartFault.whole (fun _ plain => plain.1)
    |>.required Shape.whole_uint64 (fun _ _ => trivial)
    |>.nullable Context.whole (fun _ plain => plain.2)).shape

/-- What would be thrown instead of an envelope that cannot be written; it has no timestamp. -/
def fallbackText : String :=
  "\x7b\"success\":false,\"error\":\x7b\"type\":\"Internal\",\"details\":" ++
    "\x7b\"message\":\"Failed to serialize error\"\x7d\x7d\x7d"

theorem ofText_fallbackText : shape.ofText fallbackText = .error (.missingField "timestamp") := by
  cbv

/-- The text of an envelope holds that envelope, and it is never the text of none. -/
theorem ofText_toJson {envelope : Envelope} (plain : envelope.Plain) :
    shape.ofText envelope.toJson = .ok envelope ∧ envelope.toJson ≠ fallbackText := by
  have read : shape.ofText envelope.toJson = .ok envelope :=
    roundTrips.ofText_toText (by decide) whole plain
  refine ⟨read, fun same => ?_⟩
  rw [same, ofText_fallbackText] at read
  cases read

theorem ofText_toJson_malformed :
    let envelope : Envelope := ⟨false, .malformedReport "a\"\n" 3 2, 1700000000000,
      some ⟨"ChartAdapter", "render",
        .object [("codes", .array [.int (-1), .null]), ("page", .string "caf\u00e9")]⟩⟩
    envelope.Plain ∧ shape.ofText envelope.toJson = .ok envelope ∧
      envelope.toJson ≠ fallbackText := by
  intro envelope
  have plain : envelope.Plain := by
    refine ⟨⟨by decide, by decide⟩, ?_⟩
    intro context mem
    obtain rfl := Option.some.inj mem
    have fits : Fits (-1) := by decide
    refine ⟨⟨⟨fits, trivial, trivial⟩, trivial, trivial⟩, ⟨?_, ⟨trivial, trivial, trivial⟩,
      trivial, trivial⟩, by decide⟩
    decide
  exact ⟨plain, ofText_toJson plain⟩

end Envelope

end ReportCharts
