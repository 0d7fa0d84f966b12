import ReportCharts.Yaml.Scalar
import ReportCharts.Yaml.Tag

/-!
Tokens of YAML texts.

Indentation becomes tokens that open and close block collections. Whether a scalar or a collection
is a key shows only at the colon behind it; until then its place is marked, and the marks are
settled when all tokens are known.
-/

namespace ReportCharts.Yaml

inductive Token where
  | directive (directive : Directive)
  | documentStart
  | documentEnd
  | blockSequence
  | blockMapping
  | blockEnd
  | flowSequence
  | flowSequenceEnd
  | flowMapping
  | flowMappingEnd
  | blockEntry
  | flowEntry
  | key
  | value
  | anchor (name : String)
  | reference (name : String)
  | tag (mark : TagMark)
  | scalar (style : Style) (text : String)
  deriving DecidableEq

/-- A token, or a place where a key may begin or has turned out to begin. -/
inductive Item where
  | token (token : Token)
  | mark (place : Nat)
  /-- A key begins at an earlier place, with it a block mapping when one is opened there. -/
  | keyAt (place : Nat) (opens : Bool)
  deriving DecidableEq

/-- Settle marks from the last to the first, with the keys found behind them. -/
def Item.settle : List Item → List Token × List (Nat × Bool)
  | [] => ([], [])
  | item :: rest =>
      let (tokens, found) := settle rest
      match item with
      | .token first => (first :: tokens, found)
      | .keyAt place opens => (tokens, (place, opens) :: found)
      | .mark place =>
          match found.lookup place with
          | some true => (.blockMapping :: .key :: tokens, found)
          | some false => (.key :: tokens, found)
          | none => (tokens, found)

structure Candidate where
  place : Nat
  line : Nat
  column : Nat
  required : Bool
  deriving DecidableEq

namespace Candidate

/-- A key stands on one line and is not longer than 1024 octets. -/
def isStale (candidate : Candidate) (cursor : Cursor) : Bool :=
  candidate.line < cursor.line || candidate.place + 1024 < cursor.index

def dismiss? : Option Candidate → Option Unit
  | some candidate => if candidate.required then none else some ()
  | none => some ()

end Candidate

structure Scan where
  cursor : Cursor
  /-- Columns of the open block collections, the innermost first. -/
  indents : List Nat := []
  block : Option Candidate := none
  flow : List (Option Candidate) := []
  keyAllowed : Bool := true
  deriving DecidableEq

namespace Scan

def inFlow (scan : Scan) : Bool := !scan.flow.isEmpty

def least (scan : Scan) : Nat :=
  match scan.indents with
  | [] => 0
  | indent :: _ => indent + 1

def moved (scan : Scan) (count : Nat) : Scan := { scan with cursor := scan.cursor.advance count }

def candidate (scan : Scan) : Option Candidate :=
  match scan.flow with
  | [] => scan.block
  | candidate :: _ => candidate

def setCandidate (candidate : Option Candidate) (scan : Scan) : Scan :=
  match scan.flow with
  | [] => { scan with block := candidate }
  | _ :: outer => { scan with flow := candidate :: outer }

def dismiss (scan : Scan) : Option Scan :=
  (Candidate.dismiss? scan.candidate).map fun _ => scan.setCandidate none

def expire (scan : Scan) : Option Scan :=
  let fresh (candidate : Option Candidate) : Option Candidate :=
    candidate.filter fun candidate => !candidate.isStale scan.cursor
  if fresh scan.block = none ∧ Candidate.dismiss? scan.block = none then none
  else some { scan with block := fresh scan.block, flow := scan.flow.map fresh }

def propose (scan : Scan) : Option (List Item × Scan) :=
  if scan.keyAllowed then
    let cursor := scan.cursor
    let required := !scan.inFlow && scan.indents.head? == some cursor.column
    (Candidate.dismiss? scan.candidate).map fun _ =>
      ([.mark cursor.index],
        scan.setCandidate (some ⟨cursor.index, cursor.line, cursor.column, required⟩))
  else some ([], scan)

def opens (column : Nat) (scan : Scan) : Bool := !scan.inFlow && scan.least ≤ column

def openAt (column : Nat) (scan : Scan) : Scan :=
  if scan.opens column then { scan with indents := column :: scan.indents } else scan

/-- Close the block collections that do not reach a column, all of them when there is none. -/
def close (column : Option Nat) (scan : Scan) : List Item × Scan :=
  if scan.inFlow then ([], scan)
  else
    let beyond (indent : Nat) : Bool := column.all (· < indent)
    ((scan.indents.takeWhile beyond).map fun _ => .token .blockEnd,
      { scan with indents := scan.indents.dropWhile beyond })

def entry (collection : Token) (scan : Scan) : Option (List Item × Scan) :=
  if scan.inFlow then some ([], scan)
  else if scan.keyAllowed then
    let column := scan.cursor.column
    some (if scan.opens column then [.token collection] else [], scan.openAt column)
  else none

def take (token : Token) (width : Nat) (keyAllowed : Bool) (scan : Scan) : List Item × Scan :=
  ([.token token], { scan.moved width with keyAllowed := keyAllowed })

def takeDirective (scan : Scan) : Option (List Item × Scan) := do
  let (ends, scan) := scan.close none
  let scan ← scan.dismiss
  let (directive, cursor) ← readDirective (scan.cursor.advance 1)
  return (ends ++ [.token (.directive directive)],
    { scan with cursor := cursor, keyAllowed := false })

def takeDocumentMarker (token : Token) (scan : Scan) : Option (List Item × Scan) := do
  let (ends, scan) := scan.close none
  let (items, scan) := (← scan.dismiss).take token 3 false
  return (ends ++ items, scan)

def takeFlowStart (token : Token) (scan : Scan) : Option (List Item × Scan) := do
  let (mark, scan) ← scan.propose
  let (items, scan) := { scan with flow := none :: scan.flow }.take token 1 true
  return (mark ++ items, scan)

def takeFlowEnd (token : Token) (scan : Scan) : Option (List Item × Scan) := do
  let scan ← scan.dismiss
  return { scan with flow := scan.flow.tail }.take token 1 false

def takeFlowEntry (scan : Scan) : Option (List Item × Scan) := do
  return (← scan.dismiss).take .flowEntry 1 true

def takeBlockEntry (scan : Scan) : Option (List Item × Scan) := do
  let (start, scan) ← scan.entry .blockSequence
  let (items, scan) := (← scan.dismiss).take .blockEntry 1 true
  return (start ++ items, scan)

def takeKey (scan : Scan) : Option (List Item × Scan) := do
  let (start, scan) ← scan.entry .blockMapping
  let (items, scan) := (← scan.dismiss).take .key 1 (!scan.inFlow)
  return (start ++ items, scan)

def takeValue (scan : Scan) : Option (List Item × Scan) :=
  match scan.candidate with
  | some candidate =>
      let found := Item.keyAt candidate.place (scan.opens candidate.column)
      let (items, scan) := ((scan.openAt candidate.column).setCandidate none).take .value 1 false
      some (found :: items, scan)
  | none => do
      let (start, scan) ← scan.entry .blockMapping
      let (items, scan) := scan.take .value 1 (!scan.inFlow)
      return (start ++ items, scan)

def endsName (cursor : Cursor) : Bool :=
  cursor.spaceAt 0 || cursor.head?.any fun c => "?:,]\x7d%@\x60".contains c

def takeName (token : String → Token) (scan : Scan) : Option (List Item × Scan) := do
  let (mark, scan) ← scan.propose
  let (name, cursor) := (scan.cursor.advance 1).span isWord
  if name.isEmpty ∨ ¬endsName cursor then none
  else
    return (mark ++ [.token (token (String.ofList name))],
      { scan with cursor := cursor, keyAllowed := false })

def takeTag (scan : Scan) : Option (List Item × Scan) := do
  let (mark, scan) ← scan.propose
  let (tag, cursor) ← readTag scan.inFlow scan.cursor
  return (mark ++ [.token (.tag tag)], { scan with cursor := cursor, keyAllowed := false })

def takeScalar (style : Style) (reading : Reading) (scan : Scan) : List Item × Scan :=
  ([.token (.scalar style (String.ofList reading.text))],
    { scan with cursor := reading.next, keyAllowed := reading.newLine })

def takeBlockScalar (style : Style) (scan : Scan) : Option (List Item × Scan) := do
  let scan ← scan.dismiss
  return scan.takeScalar style
    (← readBlock (style = .folded) scan.least (scan.cursor.advance 1))

def takeQuoted (style : Style) (scan : Scan) : Option (List Item × Scan) := do
  let (mark, scan) ← scan.propose
  let cursor := scan.cursor.advance 1
  let reading ← readQuoted (style = .doubleQuoted) (cursor.rest.length + 1) cursor
  let (items, scan) := scan.takeScalar style reading
  return (mark ++ items, scan)

def takePlain (scan : Scan) : Option (List Item × Scan) := do
  let (mark, scan) ← scan.propose
  let cursor := scan.cursor
  let reading ← readPlain scan.inFlow scan.least (cursor.rest.length + 1) .none cursor
  let (items, scan) := scan.takeScalar .plain reading
  return (mark ++ items, scan)

def takeToken (c : Char) (scan : Scan) : Option (List Item × Scan) :=
  let cursor := scan.cursor
  let isolated := cursor.spaceAt 1
  if cursor.column = 0 ∧ c = '%' then scan.takeDirective
  else if cursor.atMarker ['-', '-', '-'] then scan.takeDocumentMarker .documentStart
  else if cursor.atMarker ['.', '.', '.'] then scan.takeDocumentMarker .documentEnd
  else
    match c with
    | '[' => scan.takeFlowStart .flowSequence
    | '\x7b' => scan.takeFlowStart .flowMapping
    | ']' => scan.takeFlowEnd .flowSequenceEnd
    | '\x7d' => scan.takeFlowEnd .flowMappingEnd
    | ',' => scan.takeFlowEntry
    | '*' => scan.takeName .reference
    | '&' => scan.takeName .anchor
    | '!' => scan.takeTag
    | '\'' => scan.takeQuoted .singleQuoted
    | '"' => scan.takeQuoted .doubleQuoted
    | '|' => if scan.inFlow then none else scan.takeBlockScalar .literal
    | '>' => if scan.inFlow then none else scan.takeBlockScalar .folded
    | '-' => if isolated then scan.takeBlockEntry else scan.takePlain
    | '?' => if scan.inFlow ∨ isolated then scan.takeKey else scan.takePlain
    | ':' => if scan.inFlow ∨ isolated then scan.takeValue else scan.takePlain
    | '#' => none
    | '%' => none
    | '@' => none
    | '\x60' => none
    | c => if isSpace c then none else scan.takePlain

/--
Move over blanks, comments and line breaks.

A byte order mark may begin any line; a tab must not stand where a key may begin.
-/
def skipLines : (fuel : Nat) → Scan → Scan
  | 0, scan => scan
  | fuel + 1, scan =>
      let tabs := scan.inFlow || !scan.keyAllowed
      let cursor := scan.cursor
      let cursor :=
        if cursor.column = 0 ∧ cursor.startsWith '\ufeff' then cursor.advance 1 else cursor
      let cursor := cursor.skipWhile fun c => c = ' ' || (tabs && c = '\t')
      let cursor := if cursor.startsWith '#' then cursor.skipWhile fun c => !isBreak c else cursor
      if cursor.atBreak then
        skipLines fuel
          { scan with cursor := cursor.nextLine, keyAllowed := scan.keyAllowed || !scan.inFlow }
      else { scan with cursor := cursor }

def skipGap (scan : Scan) : Scan := skipLines (scan.cursor.rest.length + 1) scan

def items : (fuel : Nat) → Scan → Option (List Item)
  | 0, _ => none
  | fuel + 1, scan => do
      let scan ← scan.skipGap.expire
      let (ends, scan) := scan.close (some scan.cursor.column)
      match scan.cursor.head? with
      | some c =>
          let (found, scan) ← scan.takeToken c
          return ends ++ found ++ (← items fuel scan)
      | none =>
          let (last, scan) := scan.close none
          (Candidate.dismiss? scan.candidate).map fun _ => ends ++ last

end Scan

def Token.ofText? (text : String) : Option (List Token) :=
  let text := text.toList
  if text.all isAllowed then
    (Scan.items (text.length + 1) ⟨.start text, [], none, [], true⟩).map fun items =>
      (Item.settle items).1
  else none

end ReportCharts.Yaml
