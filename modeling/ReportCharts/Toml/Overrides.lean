import ReportCharts.OverrideEntries
import ReportCharts.Toml.Document

/-!
Partial options in TOML: the entries of a document outside of all tables with headers.
-/

namespace ReportCharts

namespace Toml.Value

def string? : Value → Option String
  | string text => some text
  | _ => none

def bool? : Value → Option Bool
  | bool value => some value
  | _ => none

def uint32? : Value → Option UInt32
  | integer value =>
      if 0 ≤ value ∧ value < UInt32.size then some (UInt32.ofNat value.toNat) else none
  | _ => none

def isVacant : Value → Bool
  | array items => items.isEmpty
  | table _ entries => entries.isEmpty
  | _ => false

/-- A position by name, or as a table whose only key is the name. -/
def position? : Value → Option LegendPosition
  | string text => LegendPosition.ofName? text
  | table _ [(name, value)] => if value.isVacant then LegendPosition.ofName? name else none
  | _ => none

def optionReader : OptionReader Value where
  string value := value.string?.map some
  bool value := value.bool?.map some
  uint32 value := value.uint32?.map some
  position value := value.position?.map some

end Toml.Value

def Overrides.ofToml? (text : String) : Option Overrides := do
  ofEntries? Toml.Value.optionReader (← Toml.Document.ofText? text).entries

end ReportCharts
