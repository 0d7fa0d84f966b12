import ReportCharts.Binary64.Stepwise
import ReportCharts.Json.Fault
import ReportCharts.Text.Digits

/-!
JSON texts with their faults left in place.

A text is read once into a document that stops at the first fault of the grammar. Whoever reads the
document from left to right then meets faults of the grammar and of the wanted type in the order of
the text. Some faults have two faces: one for a reader of values and one for a reader that only
skips, who also takes numbers out of range and unpaired surrogates.
-/

namespace ReportCharts.Json

/-- How a list or an object ends after its last whole item. -/
inductive Stop where
  | closed
  | ended
  /-- Something other than a comma or the closing bracket follows. -/
  | stray
  | commaClosed
  | commaEnded
  | noKey
  | brokenKey (strict lax : Fault)
  deriving DecidableEq

namespace Stop

/-- The fault of a skipping reader at the end of a list. -/
def skippedList : Stop → Except Fault Unit
  | .closed => .ok ()
  | .stray => .error .noCommaInList
  | .commaClosed => .error .noValue
  | .commaEnded => .error .endInValue
  | _ => .error .endInList

def skippedObject : Stop → Except Fault Unit
  | .closed => .ok ()
  | .stray => .error .noCommaInObject
  | .commaClosed => .error .keyNotString
  | .noKey => .error .keyNotString
  | .brokenKey _ lax => .error lax
  | _ => .error .endInObject

def list : Stop → Except Fault Unit
  | .closed => .ok ()
  | .stray => .error .noCommaInList
  | .commaClosed => .error .trailingComma
  | .commaEnded => .error .endInValue
  | _ => .error .endInList

def object : Stop → Except Fault Unit
  | .closed => .ok ()
  | .stray => .error .noCommaInObject
  | .commaClosed => .error .trailingComma
  | .commaEnded => .error .endInValue
  | .noKey => .error .keyNotString
  | .brokenKey strict _ => .error strict
  | .ended => .error .endInObject

end Stop

inductive Document where
  | null
  | bool (value : Bool)
  | number (value : Except Fault Number)
  | string (value : Except Fault String)
  | array (items : List Document) (stop : Stop)
  | object (members : List (Except Fault String × Document)) (stop : Stop)
  /-- Where a value is missing or a string breaks off. -/
  | broken (strict lax : Fault)
  /-- A malformed word or number that begins with the given character. -/
  | garbled (first : Char) (strict lax : Fault)

namespace Document

def isBlank (c : Char) : Bool := c = ' ' || c = '\t' || c = '\n' || c = '\r'

def skipBlanks (text : List Char) : List Char := text.dropWhile isBlank

/-- A piece of a string as it is spelled: a character, or a code unit given by number. -/
inductive Lexeme where
  | plain (c : Char)
  | unit (code : Nat)
  deriving DecidableEq

inductive Cut where
  | ended
  | control
  | escape
  | hex
  deriving DecidableEq

inductive StringEnd where
  | closed (rest : List Char)
  | cut (why : Cut)
  deriving DecidableEq

def hex4? (a b c d : Char) : Option Nat :=
  match Text.hexDigit? a, Text.hexDigit? b, Text.hexDigit? c, Text.hexDigit? d with
  | some a, some b, some c, some d => some (4096 * a + 256 * b + 16 * c + d)
  | _, _, _, _ => none

def simpleEscape? : Char → Option Char
  | '"' => some '"'
  | '\\' => some '\\'
  | '/' => some '/'
  | 'b' => some '\x08'
  | 'f' => some '\x0c'
  | 'n' => some '\n'
  | 'r' => some '\r'
  | 't' => some '\t'
  | _ => none

/-- Too few characters for a code unit: four bytes of anything are bad digits, fewer are the end. -/
def shortHex (rest : List Char) : Cut :=
  if (String.ofList rest).utf8ByteSize < 4 then .ended else .hex

def lexemes : List Char → List Lexeme × StringEnd
  | [] => ([], .cut .ended)
  | '"' :: rest => ([], .closed rest)
  | ['\\'] => ([], .cut .ended)
  | '\\' :: 'u' :: a :: b :: c :: d :: rest =>
      match hex4? a b c d with
      | some code =>
          let (more, stop) := lexemes rest
          (.unit code :: more, stop)
      | none => ([], .cut .hex)
  | '\\' :: 'u' :: rest => ([], .cut (shortHex rest))
  | '\\' :: c :: rest =>
      match simpleEscape? c with
      | some c =>
          let (more, stop) := lexemes rest
          (.plain c :: more, stop)
      | none => ([], .cut .escape)
  | c :: rest =>
      if c.toNat < 0x20 then ([], .cut .control)
      else
        let (more, stop) := lexemes rest
        (.plain c :: more, stop)

def Cut.fault : Cut → Fault
  | .ended => .endInString
  | .control => .controlCharacter
  | .escape => .badEscape
  | .hex => .badEscape

def isLeading (code : Nat) : Bool := 0xd800 ≤ code && code ≤ 0xdbff

def isTrailing (code : Nat) : Bool := 0xdc00 ≤ code && code ≤ 0xdfff

def unpairedAtEnd : StringEnd → Fault
  | .cut .ended => .endInString
  | .cut .hex => .badEscape
  | _ => .shortEscape

def characters (stop : StringEnd) : List Lexeme → Except Fault (List Char)
  | [] =>
      match stop with
      | .closed _ => .ok []
      | .cut why => .error why.fault
  | .plain c :: rest => return c :: (← characters stop rest)
  | .unit code :: rest =>
      if isTrailing code then .error .loneSurrogate
      else if isLeading code then
        match rest with
        | .unit second :: rest =>
            if isTrailing second then do
              let c := Char.ofNat (0x10000 + (code - 0xd800) * 0x400 + (second - 0xdc00))
              return c :: (← characters stop rest)
            else .error .loneSurrogate
        | .plain _ :: _ => .error .shortEscape
        | [] => .error (unpairedAtEnd stop)
      else return Char.ofNat code :: (← characters stop rest)

def stringOf (pieces : List Lexeme) (stop : StringEnd) : Except Fault String :=
  (characters stop pieces).map String.ofList

def strictCut (pieces : List Lexeme) (why : Cut) : Fault :=
  match characters (.cut why) pieces with
  | .error fault => fault
  | .ok _ => why.fault

/-- A number as it is spelled; `integral` when it has neither point nor exponent. -/
structure Literal where
  numeral : Binary64.Numeral
  integral : Bool
  deriving DecidableEq

inductive NumberEnd where
  | whole (literal : Literal) (rest : List Char)
  | cut (strict lax : Fault)
  deriving DecidableEq

def noDigit : List Char → NumberEnd
  | [] => .cut .endInValue .badNumber
  | _ => .cut .badNumber .badNumber

def exponentOf (negative : Bool) (digits : List Char) : Int :=
  if negative then -(Binary64.digitsValue digits : Int) else Binary64.digitsValue digits

def readExponent (numeral : Binary64.Numeral) (integral : Bool) (text : List Char) : NumberEnd :=
  match text with
  | 'e' :: rest | 'E' :: rest =>
      let (negative, rest) := Binary64.takeSign rest
      match rest.takeWhile Char.isDigit with
      | [] => noDigit rest
      | digits =>
          .whole ⟨{ numeral with exponent := exponentOf negative digits }, false⟩
            (rest.dropWhile Char.isDigit)
  | _ => .whole ⟨numeral, integral⟩ text

def readDecimals (numeral : Binary64.Numeral) (text : List Char) : NumberEnd :=
  match text with
  | '.' :: rest =>
      match rest.takeWhile Char.isDigit with
      | [] => noDigit rest
      | digits => readExponent { numeral with decimals := digits } false
          (rest.dropWhile Char.isDigit)
  | _ => readExponent numeral true text

/-- The whole part of a number: a zero alone, or digits that do not begin with one. -/
def readWhole (negative : Bool) (text : List Char) : NumberEnd :=
  match text.takeWhile Char.isDigit with
  | [] => noDigit text
  | '0' :: _ :: _ => .cut .badNumber .badNumber
  | digits => readDecimals ⟨negative, digits, [], 0⟩ (text.dropWhile Char.isDigit)

def readNumber : List Char → NumberEnd
  | '-' :: rest => readWhole true rest
  | text => readWhole false text

/-- An integer that fits into 64 bits stays one; any other number is rounded to a double. -/
def Literal.value (rounding : Binary64.Rounding) (literal : Literal) : Except Fault Number :=
  let magnitude := Binary64.digitsValue literal.numeral.whole
  if literal.integral ∧ ¬literal.numeral.negative ∧ magnitude < UInt64.size then
    .ok (.int magnitude)
  else if literal.integral ∧ literal.numeral.negative ∧ 0 < magnitude ∧
      Binary64.int64Min ≤ -(magnitude : Int) then
    .ok (.int (-magnitude))
  else if (literal.numeral.rounded rounding).isFinite then
    .ok (.float (literal.numeral.rounded rounding))
  else .error .numberRange

/-- What a document is to a reader who wants something else there. -/
def unlike (wanted : String) : Document → Fault
  | .null => .wrongType .null wanted
  | .bool value => .wrongType (.bool value) wanted
  | .number (.ok (.int value)) => .wrongType (.int value) wanted
  | .number (.ok (.float value)) => .wrongType (.float value) wanted
  | .number (.error fault) => fault
  | .string (.ok value) => .wrongType (.text value) wanted
  | .string (.error fault) => fault
  | .array _ _ => .wrongType .sequence wanted
  | .object _ _ => .wrongType .map wanted
  | .broken strict _ => strict
  | .garbled _ strict _ => strict

def readWord : (word text : List Char) → Except Fault (List Char)
  | [], text => .ok text
  | _ :: _, [] => .error .endInValue
  | expected :: word, c :: text =>
      if c = expected then readWord word text else .error .noWord

def wordDocument (first : Char) (document : Document) (word text : List Char) :
    Document × List Char :=
  match readWord word text with
  | .ok rest => (document, rest)
  | .error fault => (.garbled first fault fault, [])

def stringDocument (text : List Char) : Document × List Char :=
  match lexemes text with
  | (pieces, .closed rest) => (.string (stringOf pieces (.closed rest)), rest)
  | (pieces, .cut why) => (.broken (strictCut pieces why) why.fault, [])

def numberDocument (rounding : Binary64.Rounding) (first : Char) (text : List Char) :
    Document × List Char :=
  match readNumber text with
  | .whole literal rest => (.number (literal.value rounding), rest)
  | .cut strict lax => (.garbled first strict lax, [])

mutual

/-- Read a value; nothing is left of the text behind a fault. -/
def readValue (rounding : Binary64.Rounding) : (fuel : Nat) → List Char → Document × List Char
  | 0, _ => (.broken .endInValue .endInValue, [])
  | fuel + 1, text =>
      match skipBlanks text with
      | [] => (.broken .endInValue .endInValue, [])
      | 'n' :: rest => wordDocument 'n' .null ['u', 'l', 'l'] rest
      | 't' :: rest => wordDocument 't' (.bool true) ['r', 'u', 'e'] rest
      | 'f' :: rest => wordDocument 'f' (.bool false) ['a', 'l', 's', 'e'] rest
      | '"' :: rest => stringDocument rest
      | '[' :: rest =>
          let (items, stop, rest) := readItems rounding fuel true rest
          (.array items stop, rest)
      | '\x7b' :: rest =>
          let (members, stop, rest) := readMembers rounding fuel true rest
          (.object members stop, rest)
      | c :: rest =>
          if c = '-' ∨ c.isDigit then numberDocument rounding c (c :: rest)
          else (.garbled c .noValue .noValue, [])

/-- Read the items of a list; a comma goes before every item but the first. -/
def readItems (rounding : Binary64.Rounding) : (fuel : Nat) → (first : Bool) → List Char →
    List Document × Stop × List Char
  | 0, _, _ => ([], .ended, [])
  | fuel + 1, first, text =>
      match skipBlanks text with
      | [] => ([], .ended, [])
      | ']' :: rest => ([], .closed, rest)
      | c :: rest =>
          if first then readItem rounding fuel (c :: rest)
          else if c = ',' then
            match skipBlanks rest with
            | [] => ([], .commaEnded, [])
            | ']' :: _ => ([], .commaClosed, [])
            | rest => readItem rounding fuel rest
          else ([], .stray, [])

def readItem (rounding : Binary64.Rounding) : (fuel : Nat) → List Char →
    List Document × Stop × List Char
  | 0, _ => ([], .ended, [])
  | fuel + 1, text =>
      let (item, rest) := readValue rounding fuel text
      let (items, stop, rest) := readItems rounding fuel false rest
      (item :: items, stop, rest)

def readMembers (rounding : Binary64.Rounding) : (fuel : Nat) → (first : Bool) → List Char →
    List (Except Fault String × Document) × Stop × List Char
  | 0, _, _ => ([], .ended, [])
  | fuel + 1, first, text =>
      match skipBlanks text with
      | [] => ([], .ended, [])
      | '\x7d' :: rest => ([], .closed, rest)
      | c :: rest =>
          if first then readMember rounding fuel (c :: rest)
          else if c = ',' then
            match skipBlanks rest with
            | [] => ([], .commaEnded, [])
            | '\x7d' :: _ => ([], .commaClosed, [])
            | rest => readMember rounding fuel rest
          else ([], .stray, [])

def readMember (rounding : Binary64.Rounding) : (fuel : Nat) → List Char →
    List (Except Fault String × Document) × Stop × List Char
  | 0, _ => ([], .ended, [])
  | fuel + 1, '"' :: text =>
      match lexemes text with
      | (pieces, .cut why) => ([], .brokenKey (strictCut pieces why) why.fault, [])
      | (pieces, .closed rest) =>
          let key := stringOf pieces (.closed rest)
          match skipBlanks rest with
          | ':' :: rest =>
              let (value, rest) := readValue rounding fuel rest
              let (members, stop, rest) := readMembers rounding fuel false rest
              ((key, value) :: members, stop, rest)
          | [] => ([(key, .broken .endInObject .endInObject)], .ended, [])
          | _ :: _ => ([(key, .broken .noColon .noColon)], .ended, [])
  | _ + 1, _ => ([], .noKey, [])

end

def ofText (rounding : Binary64.Rounding) (text : List Char) : Document × List Char :=
  readValue rounding (3 * text.length + 3) text

mutual

/-- Pass over a document, checking its grammar only. -/
def skip : Document → Except Fault Unit
  | .array items stop => do
      skipItems items
      stop.skippedList
  | .object members stop => do
      skipMembers members
      stop.skippedObject
  | .broken _ lax => .error lax
  | .garbled _ _ lax => .error lax
  | _ => .ok ()

def skipItems : List Document → Except Fault Unit
  | [] => .ok ()
  | item :: rest => do
      skip item
      skipItems rest

def skipMembers : List (Except Fault String × Document) → Except Fault Unit
  | [] => .ok ()
  | (_, value) :: rest => do
      skip value
      skipMembers rest

end

mutual

/-- Read any value; `room` is one more than the number of brackets that may still be opened. -/
def value (room : Nat) : Document → Except Fault Value
  | .null => .ok .null
  | .bool value => .ok (.bool value)
  | .number value => value.map .number
  | .string value => value.map .string
  | .array items stop =>
      if room ≤ 1 then .error .tooDeep
      else do
        let items ← itemValues (room - 1) items
        stop.list
        return .array items
  | .object members stop =>
      if room ≤ 1 then .error .tooDeep
      else do
        let members ← memberValues (room - 1) [] members
        stop.object
        return .object members
  | .broken strict _ => .error strict
  | .garbled _ strict _ => .error strict

def itemValues (room : Nat) : List Document → Except Fault (List Value)
  | [] => .ok []
  | item :: rest => do
      let item ← value room item
      return item :: (← itemValues room rest)

/-- Of members with one key the last counts. -/
def memberValues (room : Nat) (sofar : List (String × Value)) :
    List (Except Fault String × Document) → Except Fault (List (String × Value))
  | [] => .ok sofar
  | (key, content) :: rest => do
      let key ← key
      let content ← value room content
      memberValues room (Value.insertMember key content sofar) rest

end

/-- Check a document as a reader of values would, without keeping anything. -/
def check (room : Nat) (document : Document) : Except Fault Unit :=
  (document.value room).map fun _ => ()

end Document

namespace Value

mutual

/-- A value as a faultless document; a double that is not finite becomes null. -/
def document : Value → Document
  | .null => .null
  | .bool value => .bool value
  | .number (.int value) => .number (.ok (.int value))
  | .number (.float value) => if value.isFinite then .number (.ok (.float value)) else .null
  | .string value => .string (.ok value)
  | .array items => .array (itemDocuments items) .closed
  | .object members => .object (memberDocuments members) .closed

def itemDocuments : List Value → List Document
  | [] => []
  | item :: rest => document item :: itemDocuments rest

def memberDocuments : List (String × Value) → List (Except Fault String × Document)
  | [] => []
  | (key, value) :: rest => (.ok key, document value) :: memberDocuments rest

end

end Value

end ReportCharts.Json
