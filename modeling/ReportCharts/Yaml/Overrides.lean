import ReportCharts.OverrideEntries
import ReportCharts.Yaml.Node

/-!
Partial options in YAML: a mapping from option names to scalars.

A plain scalar is read for the option it stands under: the same text is a number under one name and
a string under another.
-/

namespace ReportCharts.Yaml

def isNull (text : String) : Bool := ["null", "Null", "NULL", "~"].contains text

/-- A whole number: decimal without leading zeros, or in base sixteen, eight or two. -/
def unsigned? (text : List Char) : Option Nat :=
  match if text.head? = some '+' then text.tail else text with
  | '0' :: 'x' :: digits => Text.natural? 16 digits
  | '0' :: 'o' :: digits => Text.natural? 8 digits
  | '0' :: 'b' :: digits => Text.natural? 2 digits
  | '0' :: _ :: _ => none
  | digits => Text.natural? 10 digits

def bool? (text : String) : Option Bool :=
  if ["true", "True", "TRUE"].contains text then some true
  else if ["false", "False", "FALSE"].contains text then some false
  else none

namespace Node

def resolve (root : Node) : Node → Option Node
  | reference number => root.anchored? number
  | node => some node

def text? : Node → Option String
  | scalar _ _ _ text => some text
  | _ => none

/-- Whether a value is given: null is none, and so is what is left out. -/
def isGiven? : Node → Option Bool
  | scalar _ tag .plain text =>
      if tag = some (.core "null") then if isNull text then some false else none
      else some (tag.isSome || !(text = "" || isNull text))
  | _ => some true

/--
The text of a scalar that stands for a value of a core type: a plain one, or a literal of its tag.
-/
def bare? (type : String) : Node → Option String
  | scalar _ _ .plain text => some text
  | scalar _ tag .literal text => if tag = some (.core type) then some text else none
  | _ => none

/-- A position by name, or by a local tag on an empty value. -/
def position? : Node → Option LegendPosition
  | scalar _ tag style text =>
      match tag with
      | some (.named name) =>
          match name.toList with
          | '!' :: name =>
              if style = .plain ∧ (text = "" ∨ isNull text) then
                LegendPosition.ofName? (String.ofList name)
              else none
          | _ => LegendPosition.ofName? text
      | _ => LegendPosition.ofName? text
  | _ => none

def option? {α : Type} (root : Node) (read : Node → Option α) (node : Node) :
    Option (Option α) := do
  let node ← root.resolve node
  if ← node.isGiven? then (read node).map some else some none

def optionReader (root : Node) : OptionReader Node where
  string := root.option? text?
  bool := root.option? fun node => node.bare? "bool" >>= bool?
  uint32 := root.option? fun node => do
    let value ← unsigned? (← node.bare? "int").toList
    if value < UInt32.size then some (UInt32.ofNat value) else none
  position := root.option? position?

def namedEntries? (root : Node) (entries : List (Node × Node)) : Option (List (String × Node)) :=
  entries.mapM fun (key, value) => do return (← (← root.resolve key).text?, value)

end Node

end ReportCharts.Yaml

namespace ReportCharts.Overrides

open Yaml

def ofNode? (root : Node) : Option Overrides :=
  match root with
  | .mapping _ entries => do ofEntries? root.optionReader (← root.namedEntries? entries)
  | .scalar _ _ .plain "" => some unset
  | _ => none

def ofYaml? (text : String) : Option Overrides := do ofNode? (← Node.ofText? text)

end ReportCharts.Overrides
