import Mathlib
import ReportCharts.OverrideText
import ReportCharts.Proofs.Overrides.Precedence
import ReportCharts.Resolution

/-!
Names of override formats, and options layered over a registered preset.

A name is that of a format when it spells it with each letter in either case. What layered options
come to is told of the override and the preset below it: no registered preset has a size of zero, so
an override alone can bring one in.
-/

namespace ReportCharts

theorem toLower_eq_iff {written letter : Char} (small : letter.isUpper = false) :
    written.toLower = letter ↔ written = letter ∨ written = letter.toUpper := by
  constructor
  · rintro rfl
    by_cases large : written.isUpper = true
    · right
      rw [Char.toUpper_toLower_eq_toUpper,
        Char.toUpper_eq_of_not_isLower (Char.not_isLower_of_isUpper large)]
    · left
      exact (Char.toLower_eq_of_not_isUpper large).symm
  · have kept : letter.toLower = letter := Char.toLower_eq_of_not_isUpper (by simp [small])
    rintro (rfl | rfl)
    · exact kept
    · rw [Char.toLower_toUpper_eq_toLower, kept]

namespace TextFormat

def spellings : List (String × TextFormat) :=
  [("json", .json), ("yaml", .yaml), ("yml", .yaml), ("toml", .toml)]

/-- A name is the spelling of a format, with each letter in either case. -/
def Names (name : String) (format : TextFormat) : Prop :=
  ∃ spelling, (spelling, format) ∈ spellings ∧
    List.Forall₂ (fun written letter => written = letter ∨ written = letter.toUpper)
      name.toList spelling.toList

theorem isUpper_of_mem_spellings {spelling : String} {format : TextFormat}
    (spelt : (spelling, format) ∈ spellings) :
    ∀ letter ∈ spelling.toList, letter.isUpper = false := by
  simp only [spellings, List.mem_cons, Prod.mk.injEq, List.not_mem_nil, or_false] at spelt
  rcases spelt with ⟨rfl, -⟩ | ⟨rfl, -⟩ | ⟨rfl, -⟩ | ⟨rfl, -⟩ <;> simp

theorem forall₂_iff_map_toLower {letters : List Char} (written : List Char)
    (small : ∀ letter ∈ letters, letter.isUpper = false) :
    List.Forall₂ (fun written letter => written = letter ∨ written = letter.toUpper)
        written letters ↔
      written.map Char.toLower = letters := by
  induction letters generalizing written with
  | nil => simp
  | cons letter rest inductionHypothesis =>
      cases written with
      | nil => simp
      | cons first others =>
          have head : letter.isUpper = false := small letter List.mem_cons_self
          have tail := inductionHypothesis others fun other member =>
            small other (List.mem_cons_of_mem letter member)
          rw [List.forall₂_cons, tail, ← toLower_eq_iff head, List.map_cons, List.cons.injEq]

theorem ofName?_eq_some_iff {name : String} {format : TextFormat} :
    ofName? name = some format ↔ Names name format := by
  have spelt (spelling : String) :
      name.toList.map Char.toLower = spelling.toList ↔
        String.ofList (name.toList.map Char.toLower) = spelling := by
    constructor
    · intro same
      rw [same, String.ofList_toList]
    · rintro rfl
      rw [String.toList_ofList]
  have names : Names name format ↔
      (String.ofList (name.toList.map Char.toLower), format) ∈ spellings := by
    constructor
    · rintro ⟨spelling, member, same⟩
      rw [forall₂_iff_map_toLower _ (isUpper_of_mem_spellings member), spelt] at same
      rw [same]
      exact member
    · intro member
      refine ⟨_, member, ?_⟩
      rw [forall₂_iff_map_toLower _ (isUpper_of_mem_spellings member), spelt]
  rw [names]
  unfold ofName?
  generalize String.ofList (name.toList.map Char.toLower) = lowered
  split
  · cases format <;> simp [spellings]
  · cases format <;> simp [spellings]
  · cases format <;> simp [spellings]
  · cases format <;> simp [spellings]
  · simp_all [spellings]

end TextFormat

namespace Overrides

/-- A title is given, or there is one below, or none is shown. -/
def Titles (overrides : Overrides) (base : Options) : Prop :=
  overrides.title.isSome = true ∨ base.title.isSome = true ∨
    overrides.showTitle.getD base.showTitle = false

theorem lacksTitle_applyTo_iff (overrides : Overrides) (base : Options) :
    (overrides.applyTo base).lacksTitle = false ↔ overrides.Titles base := by
  unfold Titles Options.lacksTitle applyTo
  cases overrides.title with
  | some title => simp
  | none =>
      cases base.title with
      | some title => simp
      | none => simp

theorem barThickness_applyTo_iff (overrides : Overrides) {base : Options} {size : UInt32}
    (other : base.barThickness ≠ some size) :
    (overrides.applyTo base).barThickness = some size ↔ overrides.barThickness = some size :=
  overrides.get?_applyTo_eq_some_iff .barThickness other

theorem titleFontSize_applyTo_iff (overrides : Overrides) {base : Options} {size : UInt32}
    (other : base.titleFontSize ≠ some size) :
    (overrides.applyTo base).titleFontSize = some size ↔
      overrides.titleFontSize = some size :=
  overrides.get?_applyTo_eq_some_iff .titleFontSize other

end Overrides

theorem Preset.sizes_of_find? {name : String} {base : Preset} (found : find? name = some base) :
    base.options.barThickness ≠ some 0 ∧ base.options.titleFontSize ≠ some 0 := by
  have every : ∀ preset ∈ registry, preset.options.check = .ok () := by decide
  obtain ⟨registered, -⟩ := find?_mem found
  exact Options.check_eq_ok_iff.mp (every base registered)

end ReportCharts
