/-!
What can go wrong between a report and its chart, as told to the page.
-/

namespace ReportCharts

inductive ChartFault where
  | malformedReport (series : String) (expected actual : Nat)
  | invalidFormat (expected actual : String)
  | dataParse (message : String)
  | invalidConfig (message : String) (field : Option String)
  | unknownPreset (name : String)
  | interop (message : String)
  | internal (message : String)
  deriving DecidableEq

namespace ChartFault

def message : ChartFault → String
  | .malformedReport series expected actual =>
      "Malformed report: series " ++ series ++ " has " ++ toString actual ++
        " values but there are " ++ toString expected ++ " labels"
  | .invalidFormat expected actual =>
      "Invalid data format: " ++ expected ++ " but got " ++ actual
  | .dataParse message => "Data parse error: " ++ message
  | .invalidConfig message _ => "Invalid configuration: " ++ message
  | .unknownPreset name => "Unknown preset: " ++ name
  | .interop message => "JavaScript interop error: " ++ message
  | .internal message => "Internal error: " ++ message

inductive Worded where
  | dataParse
  | interop
  | internal
  deriving DecidableEq

def worded : Worded → String → ChartFault
  | .dataParse => .dataParse
  | .interop => .interop
  | .internal => .internal

def wrap {α : Type} (kind : Worded) (doing : String) : Except String α → Except ChartFault α
  | .ok value => .ok value
  | .error cause => .error (worded kind (doing ++ ": " ++ cause))

end ChartFault

end ReportCharts
