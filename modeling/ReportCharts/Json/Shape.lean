import ReportCharts.Json.Document

/-!
Shapes: how a type is written as a JSON value and read from a JSON document.

Reading goes from left to right, so the first fault of the text is the one reported.
-/

namespace ReportCharts.Json

/-- A way to write a type and to read it; `room` is as for `Document.value`. -/
structure Shape (α : Type) where
  write : α → Value
  read : (room : Nat) → Document → Except Fault α

namespace Shape

def string : Shape String where
  write := .string
  read
    | _, .string (.ok value) => .ok value
    | _, document => .error (document.unlike "a string")

def bool : Shape Bool where
  write := .bool
  read
    | _, .bool value => .ok value
    | _, document => .error (document.unlike "a boolean")

def double : Shape Binary64 where
  write value := .number (.float value)
  read
    | _, .number (.ok value) => .ok value.toBinary64
    | _, document => .error (document.unlike "f64")

def readNat (limit : Nat) (wanted : String) : Document → Except Fault Nat
  | .number (.ok (.int value)) =>
      if 0 ≤ value ∧ value < limit then .ok value.toNat else .error (.outOfRange value wanted)
  | document => .error (document.unlike wanted)

def uint32 : Shape UInt32 where
  write value := .int value.toNat
  read _ document := (readNat UInt32.size "u32" document).map UInt32.ofNat

def uint64 : Shape UInt64 where
  write value := .int value.toNat
  read _ document := (readNat UInt64.size "u64" document).map UInt64.ofNat

def size : Shape Nat where
  write value := .int value
  read _ document := readNat UInt64.size "usize" document

def option {α : Type} (shape : Shape α) : Shape (Option α) where
  write
    | none => .null
    | some value => shape.write value
  read
    | _, .null => .ok none
    | _, .garbled 'n' strict _ => .error strict
    | room, document => (shape.read room document).map some

def readItems {α : Type} (shape : Shape α) (room : Nat) : List Document → Except Fault (List α)
  | [] => .ok []
  | item :: rest => do
      let item ← shape.read room item
      return item :: (← readItems shape room rest)

def list {α : Type} (shape : Shape α) : Shape (List α) where
  write values := .array (values.map shape.write)
  read
    | room, .array items stop => do
        let values ← readItems shape (room - 1) items
        stop.list
        return values
    | _, document => .error (document.unlike "a sequence")

def value : Shape Value where
  write := id
  read room document := document.value room

def readName {α : Type} (known : List (String × α)) (name : String) : Except Fault α :=
  match known.find? fun entry => entry.1 == name with
  | some entry => .ok entry.2
  | none => .error (.unknownVariant name (known.map Prod.fst))

/-- Null must be the payload of a name that has none. -/
def readNoPayload : Document → Except Fault Unit
  | .null => .ok ()
  | document => .error (document.unlike "unit")

def closeName : List (Except Fault String × Document) → Stop → Except Fault Unit
  | [], .closed => .ok ()
  | [], .ended => .error .endInObject
  | _, _ => .error .noValue

def readIdentifier {α : Type} (known : List (String × α)) : Document → Except Fault α
  | .string (.ok name) => readName known name
  | document => .error (document.unlike "variant identifier")

/-- Read a name: a string, or an object that maps the name to null. -/
def readNamed {α : Type} (known : List (String × α)) : Document → Except Fault α
  | .string name => do readName known (← name)
  | .object ((name, payload) :: rest) stop => do
      let value ← readName known (← name)
      readNoPayload payload
      closeName rest stop
      return value
  | .object [] .ended => .error .endInObject
  | .object [] .noKey => .error .keyNotString
  | .object [] (.brokenKey strict _) => .error strict
  | .broken strict _ => .error strict
  | _ => .error .noValue

def byName {α : Type} (name : α → String) (all : List α) : List (String × α) :=
  all.map fun value => (name value, value)

def named {α : Type} (name : α → String) (all : List α) : Shape α where
  write value := .string (name value)
  read _ document := readNamed (byName name all) document

end Shape

/-- Read a whole text in a shape; 128 brackets may not be open at once. -/
def Shape.ofText {α : Type} (shape : Shape α) (text : String) : Except Fault α := do
  let (document, rest) := Document.ofText .stepwise text.toList
  let value ← shape.read 128 document
  if Document.skipBlanks rest = [] then return value else throw .trailingText

def Shape.toText {α : Type} (shape : Shape α) (value : α) : String :=
  String.ofList (shape.write value).text

end ReportCharts.Json
