import ReportCharts.Envelope
import ReportCharts.Json.Record

/-!
Faults and their envelopes as JSON.

A fault is an object of its type and its details, in either order, or a list of the two, where the
type must be a string. Details that come first are checked as a value before the type decides how
they are read.
-/

namespace ReportCharts

open Json

namespace ChartFault

inductive Tag where
  | malformedReport
  | invalidFormat
  | dataParse
  | invalidConfig
  | unknownPreset
  | interop
  | internal
  deriving DecidableEq

def Tag.name : Tag → String
  | .malformedReport => "MalformedReport"
  | .invalidFormat => "InvalidFormat"
  | .dataParse => "DataParse"
  | .invalidConfig => "InvalidConfig"
  | .unknownPreset => "UnknownPreset"
  | .interop => "JsInterop"
  | .internal => "Internal"

def Tag.all : List Tag :=
  [.malformedReport, .invalidFormat, .dataParse, .invalidConfig, .unknownPreset, .interop,
    .internal]

def Tag.shape : Shape Tag := .named name all

def tag : ChartFault → Tag
  | .malformedReport .. => .malformedReport
  | .invalidFormat .. => .invalidFormat
  | .dataParse .. => .dataParse
  | .invalidConfig .. => .invalidConfig
  | .unknownPreset .. => .unknownPreset
  | .interop .. => .interop
  | .internal .. => .internal

def malformedReportRecord : Record (String × Nat × Nat) ChartFault :=
  Record.start ChartFault.malformedReport
    |>.required "series" Prod.fst .string
    |>.required "expected" (fun details => details.2.1) .size
    |>.required "actual" (fun details => details.2.2) .size

def invalidFormatRecord : Record (String × String) ChartFault :=
  Record.start ChartFault.invalidFormat
    |>.required "expected" Prod.fst .string
    |>.required "actual" Prod.snd .string

def invalidConfigRecord : Record (String × Option String) ChartFault :=
  Record.start ChartFault.invalidConfig
    |>.required "message" Prod.fst .string
    |>.nullable "field" Prod.snd .string

def textRecord (make : String → ChartFault) (key : String) : Record String ChartFault :=
  Record.start make |>.required key id .string

def writeDetails : ChartFault → List (String × Value)
  | .malformedReport series expected actual =>
      malformedReportRecord.members (series, expected, actual)
  | .invalidFormat expected actual => invalidFormatRecord.members (expected, actual)
  | .dataParse message => (textRecord .dataParse "message").members message
  | .invalidConfig message field => invalidConfigRecord.members (message, field)
  | .unknownPreset name => (textRecord .unknownPreset "name").members name
  | .interop message => (textRecord .interop "message").members message
  | .internal message => (textRecord .internal "message").members message

def readObject {σ : Type} (record : Record σ ChartFault) (tag : Tag) (room : Nat) :
    Document → Except Fault ChartFault
  | .object members stop => record.readMembers (room - 1) members stop
  | document => .error (document.unlike ("struct variant TelemetryChartsError::" ++ tag.name))

def readDetails (tag : Tag) (room : Nat) (document : Document) : Except Fault ChartFault :=
  match tag with
  | .malformedReport => readObject malformedReportRecord tag room document
  | .invalidFormat => readObject invalidFormatRecord tag room document
  | .dataParse => readObject (textRecord .dataParse "message") tag room document
  | .invalidConfig => readObject invalidConfigRecord tag room document
  | .unknownPreset => readObject (textRecord .unknownPreset "name") tag room document
  | .interop => readObject (textRecord .interop "message") tag room document
  | .internal => readObject (textRecord .internal "message") tag room document

inductive Part where
  | type
  | details
  deriving DecidableEq

def Part.key : Part → String
  | .type => "type"
  | .details => "details"

def Part.ofKey? (key : String) : Option Part :=
  if key = Part.type.key then some .type
  else if key = Part.details.key then some .details
  else none

/-- The next of the two parts, what it holds and the members behind it. -/
def nextPart (stop : Stop) : List (Except Fault String × Document) →
    Except Fault (Option (Part × Document × List (Except Fault String × Document)))
  | [] => do
      stop.object
      return none
  | (key, document) :: rest => do
      match Part.ofKey? (← key) with
      | some part => return some (part, document, rest)
      | none => do
          document.skip
          nextPart stop rest

def noMoreParts (stop : Stop) (members : List (Except Fault String × Document)) :
    Except Fault Unit := do
  match ← nextPart stop members with
  | some (part, _, _) => throw (.repeatedField part.key)
  | none => return ()

def readParts (room : Nat) (stop : Stop) (members : List (Except Fault String × Document)) :
    Except Fault ChartFault := do
  match ← nextPart stop members with
  | none => throw (.missingField Part.type.key)
  | some (.type, document, rest) => do
      let tag ← Tag.shape.read room document
      match ← nextPart stop rest with
      | none => throw (.missingField Part.details.key)
      | some (.type, _, _) => throw (.repeatedField Part.type.key)
      | some (.details, document, rest) => do
          let fault ← readDetails tag room document
          noMoreParts stop rest
          return fault
  | some (.details, details, rest) => do
      details.check room
      match ← nextPart stop rest with
      | none => throw (.missingField Part.type.key)
      | some (.details, _, _) => throw (.repeatedField Part.details.key)
      | some (.type, document, rest) => do
          let tag ← Tag.shape.read room document
          let fault ← readDetails tag room details
          noMoreParts stop rest
          return fault

def phrase : String := "adjacently tagged enum TelemetryChartsError"

def readListedTag (document : Document) : Except Fault Tag :=
  Shape.readIdentifier (Shape.byName Tag.name Tag.all) document

def readPair (room : Nat) (stop : Stop) : List Document → Except Fault ChartFault
  | [] => do
      stop.list
      throw (.wrongLength 0 phrase)
  | [type] => do
      let _ ← readListedTag type
      stop.list
      throw (.wrongLength 1 phrase)
  | type :: details :: rest => do
      let tag ← readListedTag type
      let fault ← readDetails tag room details
      Record.closeItems rest stop
      return fault

def shape : Shape ChartFault where
  write fault :=
    .object [(Part.type.key, Tag.shape.write fault.tag),
      (Part.details.key, .object fault.writeDetails)]
  read
    | room, .object members stop => readParts (room - 1) stop members
    | room, .array items stop => readPair (room - 1) stop items
    | _, document => .error (document.unlike phrase)

end ChartFault

namespace Context

def record : Record Context Context :=
  Record.start Context.mk
    |>.required "component" component .string
    |>.required "operation" operation .string
    |>.required "metadata" metadata .value

def shape : Shape Context := record.shape "ErrorContext"

end Context

namespace Envelope

def record : Record Envelope Envelope :=
  Record.start Envelope.mk
    |>.required "success" success .bool
    |>.required "error" fault ChartFault.shape
    |>.required "timestamp" timestamp .uint64
    |>.nullable "context" context Context.shape

def shape : Shape Envelope := record.shape "ErrorResponse"

/-- The text that is thrown to the page. -/
def toJson (envelope : Envelope) : String := shape.toText envelope

end Envelope

end ReportCharts
