import ReportCharts.Json.Shape

/-!
Records: types written as an object with fixed keys.

A record is read from an object in any order of its members, members with other keys being skipped,
or from a list of its fields in order. It is described once, field by field, for both directions.
-/

namespace ReportCharts.Json

structure Field where
  key : String
  check : (room : Nat) → Document → Except Fault Unit
  /-- A list may leave the field out. -/
  defaulted : Bool

/--
A way to make an `α` from fields, and to write those fields of a `σ`.

`build` finds the document of a field by its key, when it was given.
-/
structure Record (σ α : Type) where
  fields : List Field
  build : (room : Nat) → (String → Option Document) → Except Fault α
  members : σ → List (String × Value)

namespace Record

variable {σ α β : Type}

def start (value : α) : Record σ α where
  fields := []
  build _ _ := .ok value
  members _ := []

def fieldOf (key : String) (shape : Shape β) (defaulted : Bool) : Field where
  key := key
  check room document := (shape.read room document).map fun _ => ()
  defaulted := defaulted

def required (record : Record σ (β → α)) (key : String) (get : σ → β) (shape : Shape β) :
    Record σ α where
  fields := record.fields ++ [fieldOf key shape false]
  build room find := do
    let make ← record.build room find
    match find key with
    | some document => return make (← shape.read room document)
    | none => throw (.missingField key)
  members value := record.members value ++ [(key, shape.write (get value))]

def readOptional (shape : Shape β) (room : Nat) : Option Document → Except Fault (Option β)
  | none => .ok none
  | some document => shape.option.read room document

/-- Add a field that may be missing, and is written as null when it is. -/
def nullable (record : Record σ (Option β → α)) (key : String) (get : σ → Option β)
    (shape : Shape β) : Record σ α where
  fields := record.fields ++ [fieldOf key shape.option false]
  build room find := do
    let make ← record.build room find
    return make (← readOptional shape room (find key))
  members value := record.members value ++ [(key, shape.option.write (get value))]

def presentMember (key : String) (shape : Shape β) : Option β → List (String × Value)
  | none => []
  | some value => [(key, shape.write value)]

/-- Add a field that may be missing, and is left out when it is. -/
def omittable (record : Record σ (Option β → α)) (key : String) (get : σ → Option β)
    (shape : Shape β) (defaulted : Bool) : Record σ α where
  fields := record.fields ++ [fieldOf key shape.option defaulted]
  build room find := do
    let make ← record.build room find
    return make (← readOptional shape room (find key))
  members value := record.members value ++ presentMember key shape (get value)

def field? (fields : List Field) (key : String) : Option Field :=
  fields.find? fun field => field.key == key

/-- Check the members from left to right and collect those with known keys. -/
def collect (fields : List Field) (room : Nat) (sofar : List (String × Document)) :
    List (Except Fault String × Document) → Except Fault (List (String × Document))
  | [] => .ok sofar
  | (key, document) :: rest => do
      let key ← key
      match field? fields key with
      | some field =>
          if sofar.any fun entry => entry.1 == key then throw (.repeatedField key)
          else do
            field.check room document
            collect fields room (sofar ++ [(key, document)]) rest
      | none => do
          document.skip
          collect fields room sofar rest

def lookup (found : List (String × Document)) (key : String) : Option Document :=
  (found.find? fun entry => entry.1 == key).map Prod.snd

def readMembers (record : Record σ α) (room : Nat)
    (members : List (Except Fault String × Document)) (stop : Stop) : Except Fault α := do
  let found ← collect record.fields room [] members
  stop.object
  record.build room (lookup found)

def closeItems : List Document → Stop → Except Fault Unit
  | _ :: _, _ => .error .trailingText
  | [], .closed => .ok ()
  | [], .commaClosed => .error .trailingComma
  | [], .stray | [], .commaEnded => .error .trailingText
  | [], _ => .error .endInList

def assign (wanted : String) (room : Nat) (stop : Stop) (position : Nat) :
    List Field → List Document → Except Fault (List (String × Document))
  | [], items => do
      closeItems items stop
      return []
  | field :: fields, [] => do
      stop.list
      if field.defaulted then assign wanted room stop (position + 1) fields []
      else throw (.wrongLength position wanted)
  | field :: fields, item :: items => do
      field.check room item
      return (field.key, item) :: (← assign wanted room stop (position + 1) fields items)

def lengthPhrase (name : String) (fields : List Field) : String :=
  "struct " ++ name ++ " with " ++ toString fields.length ++
    (if fields.length = 1 then " element" else " elements")

def readList (record : Record σ α) (name : String) (room : Nat) (items : List Document)
    (stop : Stop) : Except Fault α := do
  let found ← assign (lengthPhrase name record.fields) room stop 0 record.fields items
  record.build room (lookup found)

def shape (record : Record α α) (name : String) : Shape α where
  write value := .object (record.members value)
  read
    | room, .object members stop => record.readMembers (room - 1) members stop
    | room, .array items stop => record.readList name (room - 1) items stop
    | _, document => .error (document.unlike ("struct " ++ name))

end Record

end ReportCharts.Json
