/-!
Lines that the library reports while it works.
-/

namespace ReportCharts

namespace Log

inductive Level where
  | error
  | warn
  | info
  | debug
  deriving DecidableEq

def Level.name : Level → String
  | .error => "ERROR"
  | .warn => "WARN"
  | .info => "INFO"
  | .debug => "DEBUG"

structure Line where
  level : Level
  text : String
  deriving DecidableEq

def Line.render (line : Line) : String := line.level.name ++ " " ++ line.text

end Log

end ReportCharts
