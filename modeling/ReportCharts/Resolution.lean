import ReportCharts.Preset
import ReportCharts.SettingsFault

/-!
Resolving a preset by name with partial options layered over it.

A resolved preset can be drawn: it has a title if it shows one, and neither bars nor a title of size
zero.
-/

namespace ReportCharts

namespace Options

def check (options : Options) : Except SettingsFault Unit :=
  if options.barThickness = some 0 then .error (.unusable .zeroBarThickness)
  else if options.titleFontSize = some 0 then .error (.unusable .zeroTitleFontSize)
  else .ok ()

def lacksTitle (options : Options) : Bool := options.showTitle && options.title.isNone

theorem check_eq_ok_iff {options : Options} :
    options.check = .ok () ↔
      options.barThickness ≠ some 0 ∧ options.titleFontSize ≠ some 0 := by
  unfold check
  split
  · simp_all
  · split <;> simp_all

theorem check_of_zero_bars {options : Options} (zero : options.barThickness = some 0) :
    options.check = .error (.unusable .zeroBarThickness) := by
  rw [check, if_pos zero]

theorem check_of_zero_heading {options : Options} (bars : options.barThickness ≠ some 0)
    (zero : options.titleFontSize = some 0) :
    options.check = .error (.unusable .zeroTitleFontSize) := by
  rw [check, if_neg bars, if_pos zero]

theorem exists_unusable_of_check {options : Options} {fault : SettingsFault}
    (checked : options.check = .error fault) : ∃ why, fault = .unusable why := by
  unfold check at checked
  split at checked
  · cases checked
    exact ⟨_, rfl⟩
  · split at checked
    · cases checked
      exact ⟨_, rfl⟩
    · cases checked

end Options

namespace Preset

def layered (preset : Preset) : Option Overrides → Preset
  | none => preset
  | some overrides => preset.withOverrides overrides

/-- The registered preset of a name under partial options, ready to be drawn. -/
def resolve (name : String) (overrides : Option Overrides) : Except SettingsFault Preset :=
  match find? name with
  | none => .error (.chart (.unknownPreset name))
  | some base => do
      let preset := base.layered overrides
      if preset.options.lacksTitle then throw (.unusable (.untitled name))
      else do
        preset.options.check
        return preset

theorem resolve_of_unknown {name : String} {overrides : Option Overrides} (unknown : name ∉ names) :
    resolve name overrides = .error (.chart (.unknownPreset name)) := by
  simp only [resolve, find?_eq_none_iff.mpr unknown]

theorem resolve_of_untitled {name : String} {overrides : Option Overrides} {base : Preset}
    (found : find? name = some base)
    (untitled : (base.layered overrides).options.lacksTitle = true) :
    resolve name overrides = .error (.unusable (.untitled name)) := by
  simp only [resolve, found, untitled, if_true]
  rfl

theorem resolve_of_unusable {name : String} {overrides : Option Overrides} {base : Preset}
    {fault : SettingsFault} (found : find? name = some base)
    (titled : (base.layered overrides).options.lacksTitle = false)
    (checked : (base.layered overrides).options.check = .error fault) :
    resolve name overrides = .error fault := by
  simp only [resolve, found, titled, checked]
  rfl

/-- A resolved preset is the layered one, with a title if it shows one and without sizes of zero. -/
theorem resolve_eq_ok_iff {name : String} {overrides : Option Overrides} {preset : Preset} :
    resolve name overrides = .ok preset ↔
      ∃ base, find? name = some base ∧ base.layered overrides = preset ∧
        preset.options.lacksTitle = false ∧ preset.options.check = .ok () := by
  constructor
  · intro resolved
    unfold resolve at resolved
    cases found : find? name with
    | none =>
        rw [found] at resolved
        cases resolved
    | some base =>
        rw [found] at resolved
        by_cases untitled : (base.layered overrides).options.lacksTitle = true
        · simp only [untitled, if_true] at resolved
          cases resolved
        · simp only [untitled] at resolved
          cases checked : (base.layered overrides).options.check with
          | error fault =>
              rw [checked] at resolved
              cases resolved
          | ok usable =>
              rw [checked] at resolved
              cases resolved
              exact ⟨base, rfl, rfl, Bool.eq_false_iff.mpr untitled, checked⟩
  · rintro ⟨base, found, rfl, titled, checked⟩
    simp only [resolve, found, titled, checked]
    rfl

end Preset

end ReportCharts
