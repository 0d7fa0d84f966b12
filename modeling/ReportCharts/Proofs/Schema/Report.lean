import ReportCharts.Proofs.Json.Sound
import ReportCharts.Schema.Report

/-!
Reports and table cells, read back from what they are written as.

A double that is not finite is written as null, which is no number, so all doubles have to be
finite; those of a text always are.
-/

namespace ReportCharts

open Json

namespace Cell

def Finite : Cell → Prop
  | .number value => value.isFinite = true
  | _ => True

theorem read_eq_ok_iff {room : Nat} {document : Document} {cell : Cell} :
    Cell.shape.read room document = .ok cell ↔ ofDocument? document = some cell := by
  constructor
  · intro read
    obtain ⟨_, -, read⟩ := bind_eq_ok read
    split at read
    · next found known =>
        cases read
        exact known
    · cases read
  · intro known
    have checked : document.check room = .ok () := by
      unfold ofDocument? at known
      split at known
      · rfl
      · rfl
      · rfl
      · cases known
    simp only [shape, checked, known, bind, Except.bind]
    rfl

theorem roundTrips {need : Nat} : Cell.shape.RoundTrips Finite need := by
  intro cell finite tree same room _
  apply read_eq_ok_iff.mpr
  cases cell with
  | number value =>
      cases same
      simp only [Cell.shape, write, Value.document, if_pos (show value.isFinite = true from finite),
        ofDocument?, Number.toBinary64]
  | text content =>
      cases same
      rfl
  | empty =>
      cases same
      rfl

theorem yields : Cell.shape.Yields Finite := by
  intro room document cell sound read
  have known := read_eq_ok_iff.mp read
  have double := Shape.yields_double room document
  unfold ofDocument? at known
  split at known
  · cases known
    trivial
  · cases known
    exact double _ sound rfl
  · cases known
    trivial
  · cases known

end Cell

namespace Series

def Finite (series : Series) : Prop := ∀ value ∈ series.values, value.isFinite = true

theorem roundTrips {need : Nat} : Series.shape.RoundTrips Finite (need + 2) :=
  (Record.RoundTrips.start
    |>.required .string (fun _ _ => trivial)
    |>.required (.list .double) (fun _ finite => finite)
    |>.omittable .string Shape.given_string (fun _ _ _ _ => trivial)).shape (by decide) fun _ => rfl

theorem yields : Series.shape.Yields Finite :=
  (Record.Yields.start (fun _ _ _ finite _ => finite)
    |>.required (Shape.yields_any _)
    |>.required (Shape.yields_double.list)
    |>.omittable).shape

end Series

namespace Report

def Finite (report : Report) : Prop := ∀ series ∈ report.series, series.Finite

theorem roundTrips {need : Nat} : Report.shape.RoundTrips Finite (need + 4) :=
  (Record.RoundTrips.start
    |>.required (.list .string) (fun _ _ _ _ => trivial)
    |>.required (.list Series.roundTrips) (fun _ finite => finite)).shape (by decide) fun _ => rfl

theorem yields : Report.shape.Yields Finite :=
  (Record.Yields.start (fun _ _ _ finite => finite)
    |>.required (Shape.yields_any _)
    |>.required Series.yields.list).shape

end Report

end ReportCharts
