import ReportCharts.Binary64.Numeral

/-!
JSON values and their compact text.

An object keeps its members in the order given; a value read from a text has them in the order of
their keys.
-/

namespace ReportCharts.Json

inductive Number where
  | int (value : Int)
  | float (value : Binary64)
  deriving DecidableEq

namespace Number

def toBinary64 : Number → Binary64
  | .int value => .ofInt value
  | .float value => value

/-- A double that is not finite has no text of its own. -/
def text : Number → List Char
  | .int value => (toString value).toList
  | .float (.finite negative rank) => Binary64.scientific negative rank
  | .float _ => "null".toList

end Number

inductive Value where
  | null
  | bool (value : Bool)
  | number (value : Number)
  | string (value : String)
  | array (items : List Value)
  | object (members : List (String × Value))

namespace Value

def int (value : Int) : Value := .number (.int value)

def hex4 (code : Nat) : List Char :=
  [code / 4096 % 16, code / 256 % 16, code / 16 % 16, code % 16].map Nat.digitChar

def escaped (c : Char) : List Char :=
  if c = '"' then ['\\', '"']
  else if c = '\\' then ['\\', '\\']
  else if c = '\x08' then ['\\', 'b']
  else if c = '\x0c' then ['\\', 'f']
  else if c = '\n' then ['\\', 'n']
  else if c = '\r' then ['\\', 'r']
  else if c = '\t' then ['\\', 't']
  else if c.toNat < 0x20 then '\\' :: 'u' :: hex4 c.toNat
  else [c]

def stringText (text : String) : List Char :=
  '"' :: (text.toList.flatMap escaped ++ ['"'])

mutual

def text : Value → List Char
  | .null => "null".toList
  | .bool value => if value then "true".toList else "false".toList
  | .number value => value.text
  | .string value => stringText value
  | .array items => '[' :: (itemsText items ++ [']'])
  | .object members => '\x7b' :: (membersText members ++ ['\x7d'])

def itemsText : List Value → List Char
  | [] => []
  | item :: rest => text item ++ moreItemsText rest

def moreItemsText : List Value → List Char
  | [] => []
  | item :: rest => ',' :: (text item ++ moreItemsText rest)

def membersText : List (String × Value) → List Char
  | [] => []
  | (key, value) :: rest => stringText key ++ ':' :: (text value ++ moreMembersText rest)

def moreMembersText : List (String × Value) → List Char
  | [] => []
  | (key, value) :: rest =>
      ',' :: (stringText key ++ ':' :: (text value ++ moreMembersText rest))

end

def insertMember (key : String) (value : Value) :
    List (String × Value) → List (String × Value)
  | [] => [(key, value)]
  | (other, old) :: rest =>
      if key < other then (key, value) :: (other, old) :: rest
      else if key = other then (key, value) :: rest
      else (other, old) :: insertMember key value rest

def member? (key : String) : Value → Option Value
  | .object members => (members.find? fun entry => entry.1 == key).map Prod.snd
  | _ => none

end Value

end ReportCharts.Json
