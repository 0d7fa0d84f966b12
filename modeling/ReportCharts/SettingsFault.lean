import ReportCharts.ChartFault
import ReportCharts.Json.Fault

/-!
What can go wrong with presets, options and override texts.
-/

namespace ReportCharts

inductive Unusable where
  | untitled (preset : String)
  | zeroBarThickness
  | zeroTitleFontSize
  | stated (message : String)
  deriving DecidableEq

def Unusable.message : Unusable → String
  | .untitled preset => "Preset " ++ preset ++ " shows a title but none was given"
  | .zeroBarThickness => "Invalid bar thickness: 0. Must be at least 1"
  | .zeroTitleFontSize => "Invalid title font size: 0. Must be at least 1"
  | .stated message => message

inductive Unreadable where
  | unknownFormat (name : String)
  | json (fault : Json.Fault)
  | yaml (cause : String)
  | toml (cause : String)
  | stated (message : String)
  deriving DecidableEq

def Unreadable.message : Unreadable → String
  | .unknownFormat name => "Unsupported override format: " ++ name
  | .json fault => "JSON parse error: " ++ fault.message
  | .yaml cause => "YAML parse error: " ++ cause
  | .toml cause => "TOML parse error: " ++ cause
  | .stated message => message

inductive SettingsFault where
  | unusable (why : Unusable)
  | unreadable (why : Unreadable)
  | chart (fault : ChartFault)
  deriving DecidableEq

namespace SettingsFault

def message : SettingsFault → String
  | .unusable why => "Validation error: " ++ why.message
  | .unreadable why => "Parse error: " ++ why.message
  | .chart fault => fault.message

/-- The fault as the page is told of it. -/
def toChartFault : SettingsFault → ChartFault
  | .unusable why => .invalidConfig why.message none
  | .unreadable why => .dataParse why.message
  | .chart fault => fault

end SettingsFault

end ReportCharts
