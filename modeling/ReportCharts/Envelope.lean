import ReportCharts.ChartFault
import ReportCharts.Json.Value

/-!
The envelope in which a fault reaches the page: when it happened and what was being done.

Metadata belongs to a context; without one it is dropped, and a new context starts without any.
-/

namespace ReportCharts

structure Context where
  component : String
  operation : String
  metadata : Json.Value

structure Envelope where
  success : Bool
  fault : ChartFault
  timestamp : UInt64
  context : Option Context

namespace Envelope

def of (fault : ChartFault) (timestamp : UInt64) : Envelope := ⟨false, fault, timestamp, none⟩

def withContext (envelope : Envelope) (component operation : String) : Envelope :=
  { envelope with context := some ⟨component, operation, .null⟩ }

/-- Replace the metadata of the context, if there is one. -/
def withMetadata (envelope : Envelope) (metadata : Json.Value) : Envelope :=
  { envelope with
    context := envelope.context.map fun context => { context with metadata := metadata } }

@[simp]
theorem context_of (fault : ChartFault) (timestamp : UInt64) :
    (Envelope.of fault timestamp).context = none := rfl

end Envelope

end ReportCharts
