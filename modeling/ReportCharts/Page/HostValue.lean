import ReportCharts.Report
import ReportCharts.Cell
import ReportCharts.Json.Value

/-!
Values that the page's scripts hand over, and their reading as labels, numbers, tables and reports.

The values are those that JSON has, undefined, and numbers of any kind. Functions, symbols, big
integers, typed arrays and other iterables are left out, and so are objects with getters or with
members of a prototype.
-/

namespace ReportCharts.Page

inductive HostValue where
  | undefined
  | null
  | bool (value : Bool)
  | number (value : Binary64)
  | string (value : String)
  | array (items : List HostValue)
  /-- Members in the order in which their keys were first set. -/
  | object (members : List (String × HostValue))

namespace HostValue

/-- Set a key: in its place when it is there, behind the others when it is not. -/
def setKey (key : String) (value : HostValue) :
    List (String × HostValue) → List (String × HostValue)
  | [] => [(key, value)]
  | (other, old) :: rest =>
      if other = key then (key, value) :: rest else (other, old) :: setKey key value rest

def ofSettings (settings : List (String × HostValue)) : HostValue :=
  .object (settings.foldl (fun members (key, value) => setKey key value members) [])

/-- The number of a key that is an array index: digits without a leading zero, below 2^32 - 1. -/
def arrayIndex? (key : String) : Option Nat :=
  let digits := key.toList
  if digits ≠ [] ∧ digits.all Char.isDigit ∧ (digits.head? ≠ some '0' ∨ digits = ['0']) then
    let index := Binary64.digitsValue digits
    if index < UInt32.size - 1 then some index else none
  else none

def indexed (members : List (String × HostValue)) : List (Nat × String × HostValue) :=
  members.filterMap fun entry => (arrayIndex? entry.1).map fun index => (index, entry)

/-- Members in the order in which a script sees them: array indexes ascending, then the others. -/
def ordered (members : List (String × HostValue)) : List (String × HostValue) :=
  ((indexed members).mergeSort fun left right => left.1 ≤ right.1).map Prod.snd ++
    members.filter fun entry => (arrayIndex? entry.1).isNone

def entries? : HostValue → Option (List (String × HostValue))
  | .object members => some (ordered members)
  | .array items => some (items.mapIdx fun index item => (toString index, item))
  | _ => none

/-- The value of a key of an object's own; arrays have none that is looked for. -/
def key? (key : String) : HostValue → Option HostValue
  | .object members => (members.find? fun entry => entry.1 == key).map Prod.snd
  | _ => none

mutual

/-- A JSON value as a script sees it; a number of either kind is a double there, whatever it is. -/
def ofJson : Json.Value → HostValue
  | .null => .null
  | .bool value => .bool value
  | .number value => .number value.toBinary64
  | .string value => .string value
  | .array items => .array (ofItems items)
  | .object members => .object (ofMembers members)

def ofItems : List Json.Value → List HostValue
  | [] => []
  | item :: rest => ofJson item :: ofItems rest

def ofMembers : List (String × Json.Value) → List (String × HostValue)
  | [] => []
  | (key, value) :: rest => (key, ofJson value) :: ofMembers rest

end

theorem ofItems_eq_map (items : List Json.Value) : ofItems items = items.map ofJson := by
  induction items with
  | nil => rfl
  | cons item rest inductionHypothesis => rw [ofItems, inductionHypothesis, List.map_cons]

theorem ofMembers_eq_map (members : List (String × Json.Value)) :
    ofMembers members = members.map fun member => (member.1, ofJson member.2) := by
  induction members with
  | nil => rfl
  | cons member rest inductionHypothesis => rw [ofMembers, inductionHypothesis, List.map_cons]

/-- A value as shown in a message, where it is not an object. -/
def shown (value : HostValue) : String :=
  let content : String :=
    match value with
    | .undefined => "undefined"
    | .null => "null"
    | .bool value => if value then "true" else "false"
    | .number value => value.plain
    | .string text => "\"" ++ text ++ "\""
    | .array _ => "[]"
    | .object _ => "Object"
  "JsValue(" ++ content ++ ")"

def string? : HostValue → Option String
  | .string value => some value
  | _ => none

def number? : HostValue → Option Binary64
  | .number value => some value
  | _ => none

theorem number?_eq_some_iff {value : HostValue} {number : Binary64} :
    value.number? = some number ↔ value = .number number := by
  cases value <;> simp [number?]

def list? {α : Type} (item? : HostValue → Option α) : HostValue → Option (List α)
  | .array items => items.mapM item?
  | _ => none

def strings? : HostValue → Option (List String) := list? string?

def numbers? : HostValue → Option (List Binary64) := list? number?

def safeInteger : Nat := 9007199254740991

/-- A whole number of safe size loses the sign of its zero. -/
def cellNumber (value : Binary64) : Binary64 :=
  match value.toInt? with
  | some whole => if whole.natAbs ≤ safeInteger then .ofInt whole else value
  | none => value

def cell? : HostValue → Option Cell
  | .number value => some (.number (cellNumber value))
  | .string value => some (.text value)
  | .null => some .empty
  | .undefined => some .empty
  | _ => none

def table? : HostValue → Option (List (List Cell)) := list? (list? cell?)

/-- An optional text: nothing when it is missing, null or undefined. -/
def optionalString? : Option HostValue → Option (Option String)
  | none => some none
  | some .null => some none
  | some .undefined => some none
  | some (.string value) => some (some value)
  | some _ => none

def series? (value : HostValue) : Option Series := do
  let label ← string? (← value.key? "label")
  let values ← numbers? (← value.key? "values")
  let color ← optionalString? (value.key? "color")
  return ⟨label, values, color⟩

def report? (value : HostValue) : Option Report := do
  let labels ← strings? (← value.key? "labels")
  let series ← list? series? (← value.key? "series")
  return ⟨labels, series⟩

end HostValue

end ReportCharts.Page
