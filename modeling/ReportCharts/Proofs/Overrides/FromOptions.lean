import ReportCharts.Proofs.Overrides.Precedence
import ReportCharts.Proofs.Schema.Options

/-!
Options taken for partial options.

Options and partial options are two records, each with its own list of keys. The members that options
are written as are read by the other record, which skips keys that it does not know; that no option
goes missing this way depends on both lists having the same keys, with the same types behind them.
-/

namespace ReportCharts

open Json
open Value (Reordered)

namespace Options

/-- Partial options that give every option that has a value. -/
def asOverrides (options : Options) : Overrides := Overrides.ofValues options.get?

theorem get?_asOverrides_applyTo (options base : Options) (name : OptionName) :
    (options.asOverrides.applyTo base).get? name = (options.get? name).or (base.get? name) := by
  rw [Overrides.get?_applyTo, asOverrides, Overrides.get?_ofValues]

/-- The default options have nothing but flags, and a flag always has a value. -/
theorem get?_or_default (options : Options) (name : OptionName) :
    (options.get? name).or (Options.get? {} name) = options.get? name := by
  cases name with
  | showTitle | showLegend | stacked | beginYAtZero => exact Option.some_or
  | title | titleFontSize | legendPosition | barThickness | yAxisLabel | xAxisLabel | responsive =>
      exact Option.or_none

theorem asOverrides_applyTo_default (options : Options) : options.asOverrides.applyTo {} = options := by
  apply Options.ext_get?
  intro name
  rw [get?_asOverrides_applyTo, get?_or_default]

/-- Read as partial options are, and written as options are. -/
def asOverridesRecord : Record Options Overrides :=
  Record.start Overrides.mk
    |>.voidable "title" (fun options => options.get? .title) .string true
    |>.voidable "showTitle" (fun options => options.get? .showTitle) .bool true
    |>.voidable "titleFontSize" (fun options => options.get? .titleFontSize) .uint32 true
    |>.voidable "showLegend" (fun options => options.get? .showLegend) .bool true
    |>.voidable "legendPosition" (fun options => options.get? .legendPosition) LegendPosition.shape
      true
    |>.voidable "stacked" (fun options => options.get? .stacked) .bool true
    |>.voidable "barThickness" (fun options => options.get? .barThickness) .uint32 true
    |>.voidable "yAxisLabel" (fun options => options.get? .yAxisLabel) .string true
    |>.voidable "xAxisLabel" (fun options => options.get? .xAxisLabel) .string true
    |>.voidable "beginYAtZero" (fun options => options.get? .beginYAtZero) .bool true
    |>.voidable "responsive" (fun options => options.get? .responsive) .bool true

theorem members_asOverridesRecord (options : Options) :
    asOverridesRecord.members options = record.members options := rfl

theorem readMembers_asOverridesRecord :
    asOverridesRecord.readMembers = Overrides.record.readMembers := rfl

theorem asOverridesRecord_roundTrips {need : Nat} :
    asOverridesRecord.RoundTrips Shape.Any asOverrides need :=
  Record.RoundTrips.start
    |>.voidable .string Shape.given_string (fun _ _ _ _ => trivial)
    |>.voidable .bool Shape.given_bool (fun _ _ _ _ => trivial)
    |>.voidable .uint32 Shape.given_uint32 (fun _ _ _ _ => trivial)
    |>.voidable .bool Shape.given_bool (fun _ _ _ _ => trivial)
    |>.voidable LegendPosition.roundTrips Shape.given_named (fun _ _ _ _ => trivial)
    |>.voidable .bool Shape.given_bool (fun _ _ _ _ => trivial)
    |>.voidable .uint32 Shape.given_uint32 (fun _ _ _ _ => trivial)
    |>.voidable .string Shape.given_string (fun _ _ _ _ => trivial)
    |>.voidable .string Shape.given_string (fun _ _ _ _ => trivial)
    |>.voidable .bool Shape.given_bool (fun _ _ _ _ => trivial)
    |>.voidable .bool Shape.given_bool (fun _ _ _ _ => trivial)

theorem read_asOverrides (options : Options) {tree : Value}
    (same : Reordered (shape.write options) tree) {room : Nat} (enough : 1 < room) :
    Overrides.shape.read room tree.document = .ok options.asOverrides := by
  obtain ⟨others, rfl, -⟩ := Value.Reordered.members same
  -- the members of the one record, read by the other: a round trip of the record made of both
  have reordered : Reordered (.object (asOverridesRecord.members options)) (.object others) := by
    rw [members_asOverridesRecord]
    exact same
  have trip : asOverridesRecord.RoundTrips Shape.Any asOverrides 0 := asOverridesRecord_roundTrips
  have read := trip.readMembers (by decide) trivial reordered (room - 1) (by omega)
  rw [readMembers_asOverridesRecord] at read
  exact read

theorem ofText_asOverrides (options : Options) :
    Overrides.shape.ofText (shape.toText options) = .ok options.asOverrides :=
  Shape.ofText_toText_of_read (whole options trivial)
    (options.read_asOverrides (Reordered.refl _) (by decide))

end Options

/--
What options are written as is read as partial options. Over any base these bring every option that
has a value and leave the others; over the default options they come to the options they are from.
-/
theorem Options.read_as_overrides (options : Options) :
    Overrides.shape.ofText (Options.shape.toText options) = .ok options.asOverrides ∧
      (∀ tree, Reordered (Options.shape.write options) tree → ∀ room, 1 < room →
        Overrides.shape.read room tree.document = .ok options.asOverrides) ∧
      (∀ base name, (options.asOverrides.applyTo base).get? name =
        (options.get? name).or (base.get? name)) ∧
      options.asOverrides.applyTo {} = options := by
  refine ⟨options.ofText_asOverrides, ?_, ?_, options.asOverrides_applyTo_default⟩
  · intro tree same room enough
    exact options.read_asOverrides same enough
  · exact options.get?_asOverrides_applyTo

theorem Options.read_as_overrides_reversed :
    let options : Options := { title := some "Crashes", barThickness := some 30 }
    let base : Options := { title := some "Builds", stacked := true, responsive := some false }
    let tree : Value := .object (Options.record.members options).reverse
    Reordered (Options.shape.write options) tree ∧
      Overrides.shape.read 2 tree.document = .ok options.asOverrides ∧
      options.asOverrides.applyTo base = { options with responsive := some false } := by
  intro options base tree
  have reordered : Reordered (Options.shape.write options) tree :=
    ⟨Options.record.members options, _, rfl, Value.MembersReordered.refl _,
      (List.reverse_perm _).symm⟩
  obtain ⟨-, read, layered, -⟩ := Options.read_as_overrides options
  refine ⟨reordered, read tree reordered 2 (by decide), ?_⟩
  apply Options.ext_get?
  intro name
  rw [layered]
  cases name <;> rfl

end ReportCharts
