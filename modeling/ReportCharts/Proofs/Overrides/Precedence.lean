import ReportCharts.Preset

/-!
Which layer an option comes from.

Options and partial options are looked at name by name: a name has a value or none, and in options a
flag always has one. Layering is told of each name alone, by one law; what follows for several layers
follows name by name.
-/

namespace ReportCharts

inductive OptionName where
  | title
  | showTitle
  | titleFontSize
  | showLegend
  | legendPosition
  | stacked
  | barThickness
  | yAxisLabel
  | xAxisLabel
  | beginYAtZero
  | responsive
  deriving DecidableEq

def OptionName.Value : OptionName → Type
  | title | yAxisLabel | xAxisLabel => String
  | showTitle | showLegend | stacked | beginYAtZero | responsive => Bool
  | titleFontSize | barThickness => UInt32
  | legendPosition => LegendPosition

def Options.get? (options : Options) : (name : OptionName) → Option name.Value
  | .title => options.title
  | .showTitle => some options.showTitle
  | .titleFontSize => options.titleFontSize
  | .showLegend => some options.showLegend
  | .legendPosition => options.legendPosition
  | .stacked => some options.stacked
  | .barThickness => options.barThickness
  | .yAxisLabel => options.yAxisLabel
  | .xAxisLabel => options.xAxisLabel
  | .beginYAtZero => some options.beginYAtZero
  | .responsive => options.responsive

theorem Options.ext_get? {one other : Options} (same : ∀ name, one.get? name = other.get? name) :
    one = other := by
  cases one
  cases other
  rw [Options.mk.injEq]
  exact ⟨same .title, Option.some.inj (same .showTitle), same .titleFontSize,
    Option.some.inj (same .showLegend), same .legendPosition, Option.some.inj (same .stacked),
    same .barThickness, same .yAxisLabel, same .xAxisLabel, Option.some.inj (same .beginYAtZero),
    same .responsive⟩

namespace Overrides

def get? (overrides : Overrides) : (name : OptionName) → Option name.Value
  | .title => overrides.title
  | .showTitle => overrides.showTitle
  | .titleFontSize => overrides.titleFontSize
  | .showLegend => overrides.showLegend
  | .legendPosition => overrides.legendPosition
  | .stacked => overrides.stacked
  | .barThickness => overrides.barThickness
  | .yAxisLabel => overrides.yAxisLabel
  | .xAxisLabel => overrides.xAxisLabel
  | .beginYAtZero => overrides.beginYAtZero
  | .responsive => overrides.responsive

def ofValues (value? : (name : OptionName) → Option name.Value) : Overrides where
  title := value? .title
  showTitle := value? .showTitle
  titleFontSize := value? .titleFontSize
  showLegend := value? .showLegend
  legendPosition := value? .legendPosition
  stacked := value? .stacked
  barThickness := value? .barThickness
  yAxisLabel := value? .yAxisLabel
  xAxisLabel := value? .xAxisLabel
  beginYAtZero := value? .beginYAtZero
  responsive := value? .responsive

@[simp]
theorem get?_ofValues (value? : (name : OptionName) → Option name.Value) (name : OptionName) :
    (ofValues value?).get? name = value? name := by
  cases name <;> rfl

@[simp]
theorem get?_unset (name : OptionName) : unset.get? name = none := by
  cases name <;> rfl

/-- The law of one layer: what it gives is taken, anything else is left as it is below. -/
theorem get?_applyTo (overrides : Overrides) (base : Options) (name : OptionName) :
    (overrides.applyTo base).get? name = (overrides.get? name).or (base.get? name) := by
  cases name with
  | showTitle | showLegend | stacked | beginYAtZero => exact Option.or_some.symm
  | title | titleFontSize | legendPosition | barThickness | yAxisLabel | xAxisLabel | responsive =>
      exact Option.orElse_eq_or

theorem get?_applyTo_eq_some_iff (overrides : Overrides) {base : Options} (name : OptionName)
    {value : name.Value} (other : base.get? name ≠ some value) :
    (overrides.applyTo base).get? name = some value ↔ overrides.get? name = some value := by
  rw [get?_applyTo, Option.or_eq_some_iff]
  constructor
  · rintro (given | ⟨-, below⟩)
    · exact given
    · exact absurd below other
  · exact .inl

/-- What the last of some layers that gives an option gives for it. -/
def lastGiven? (layers : List Overrides) (name : OptionName) : Option name.Value :=
  layers.reverse.findSome? fun overrides => overrides.get? name

theorem lastGiven?_cons (first : Overrides) (rest : List Overrides) (name : OptionName) :
    lastGiven? (first :: rest) name = (lastGiven? rest name).or (first.get? name) := by
  simp [lastGiven?, List.findSome?_append]

theorem get?_applyAll (layers : List Overrides) (base : Options) (name : OptionName) :
    (applyAll layers base).get? name = (lastGiven? layers name).or (base.get? name) := by
  -- for every base, since the first layer makes the base of the others
  induction layers generalizing base with
  | nil => rfl
  | cons first rest inductionHypothesis =>
      rw [applyAll_cons, inductionHypothesis, get?_applyTo, lastGiven?_cons, Option.or_assoc]

/-- Both layers in one, the one above preferred. -/
def merge (below above : Overrides) : Overrides :=
  ofValues fun name => (above.get? name).or (below.get? name)

def mergeAll (layers : List Overrides) : Overrides := layers.foldl merge unset

theorem get?_merge (below above : Overrides) (name : OptionName) :
    (below.merge above).get? name = (above.get? name).or (below.get? name) :=
  get?_ofValues _ name

theorem get?_foldl_merge (layers : List Overrides) (below : Overrides) (name : OptionName) :
    (layers.foldl merge below).get? name = (lastGiven? layers name).or (below.get? name) := by
  induction layers generalizing below with
  | nil => rfl
  | cons first rest inductionHypothesis =>
      rw [List.foldl_cons, inductionHypothesis, get?_merge, lastGiven?_cons, Option.or_assoc]

theorem applyAll_eq_applyTo_mergeAll (layers : List Overrides) (base : Options) :
    applyAll layers base = (mergeAll layers).applyTo base := by
  apply Options.ext_get?
  intro name
  rw [get?_applyAll, get?_applyTo, mergeAll, get?_foldl_merge, get?_unset, Option.or_none]

theorem applyTo_merge (below above : Overrides) (base : Options) :
    (below.merge above).applyTo base = above.applyTo (below.applyTo base) := by
  apply Options.ext_get?
  intro name
  rw [get?_applyTo, get?_merge, get?_applyTo, get?_applyTo, Option.or_assoc]

def Disjoint (first second : Overrides) : Prop :=
  ∀ name, first.get? name = none ∨ second.get? name = none

theorem Disjoint.applyTo_comm {first second : Overrides} (apart : first.Disjoint second)
    (base : Options) :
    second.applyTo (first.applyTo base) = first.applyTo (second.applyTo base) := by
  apply Options.ext_get?
  intro name
  rw [get?_applyTo, get?_applyTo, get?_applyTo, get?_applyTo]
  rcases apart name with absent | absent
  · rw [absent, Option.none_or, Option.none_or]
  · rw [absent, Option.none_or, Option.none_or]

@[simp]
theorem applyTo_applyTo (overrides : Overrides) (base : Options) :
    overrides.applyTo (overrides.applyTo base) = overrides.applyTo base := by
  apply Options.ext_get?
  intro name
  rw [get?_applyTo, get?_applyTo, ← Option.or_assoc, Option.or_self]

end Overrides

theorem Preset.foldl_withOverrides (layers : List Overrides) (preset : Preset) :
    layers.foldl withOverrides preset =
      { preset with options := Overrides.applyAll layers preset.options } := by
  induction layers generalizing preset with
  | nil => rfl
  | cons first rest inductionHypothesis =>
      rw [List.foldl_cons, inductionHypothesis]
      rfl

/--
The last layer that gives an option wins, and the options below keep what no layer gives. So layers
come to their merge; those that give different options may change places, and the last one may be
repeated.
-/
theorem Overrides.lastGiven_wins :
    (∀ layers base name, (applyAll layers base).get? name =
        (lastGiven? layers name).or (base.get? name)) ∧
      (∀ below above base, applyAll [below, above] base = (below.merge above).applyTo base) ∧
      (∀ first second base, first.Disjoint second →
        applyAll [first, second] base = applyAll [second, first] base) ∧
      (∀ layers last base,
        applyAll (layers ++ [last, last]) base = applyAll (layers ++ [last]) base) ∧
      ∀ layers (preset : Preset),
        layers.foldl Preset.withOverrides preset = preset.withOverrides (mergeAll layers) := by
  refine ⟨get?_applyAll, ?_, ?_, ?_, ?_⟩
  · intro below above base
    exact (applyTo_merge below above base).symm
  · intro first second base apart
    exact apart.applyTo_comm base
  · intro layers last base
    rw [applyAll_append, applyAll_append]
    exact last.applyTo_applyTo (applyAll layers base)
  · intro layers preset
    rw [Preset.foldl_withOverrides, applyAll_eq_applyTo_mergeAll]
    rfl

theorem Overrides.lastGiven_wins_disjoint :
    let first : Overrides := { title := some "Builds", stacked := some true }
    let second : Overrides := { stacked := none, barThickness := some 20, responsive := some false }
    first.Disjoint second ∧ applyAll [first, second] {} = applyAll [second, first] {} := by
  intro first second
  have apart : first.Disjoint second := by
    intro name
    cases name with
    | title | stacked => exact .inr rfl
    | _ => exact .inl rfl
  obtain ⟨-, -, commute, -, -⟩ := Overrides.lastGiven_wins
  exact ⟨apart, commute first second {} apart⟩

end ReportCharts
