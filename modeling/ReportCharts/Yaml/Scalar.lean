import ReportCharts.Text.Digits
import ReportCharts.Yaml.Cursor

/-!
Scalars of YAML texts in their five styles: plain, single and double quoted, literal and folded.

A gap of blanks inside a scalar is kept; a gap with line breaks is folded, one break into a space
and more into one fewer.
-/

namespace ReportCharts.Yaml

inductive Style where
  | plain
  | singleQuoted
  | doubleQuoted
  | literal
  | folded
  deriving DecidableEq

/-- Blanks between the words of a scalar: those of one line, or the line breaks crossed. -/
structure Gap where
  blanks : List Char
  breaks : List (List Char)
  deriving DecidableEq

namespace Gap

def none : Gap := ⟨[], []⟩

def crossesLine (gap : Gap) : Bool := !gap.breaks.isEmpty

def text (gap : Gap) : List Char :=
  match gap.breaks with
  | [] => gap.blanks
  | first :: more =>
      if first = ['\n'] then
        if more.isEmpty then [' '] else more.flatten
      else first ++ more.flatten

end Gap

/--
Read a gap.

Blanks behind a line break are indentation and dropped; a tab there must not stand left of `indent`.
-/
def readGap (indent : Nat) : (fuel : Nat) → Gap → Cursor → Option (Gap × Cursor)
  | 0, gap, cursor => some (gap, cursor)
  | fuel + 1, gap, cursor =>
      match cursor.head? with
      | some c =>
          if isBlank c then
            if gap.crossesLine then
              if c = '\t' ∧ cursor.column < indent then none
              else readGap indent fuel gap (cursor.advance 1)
            else readGap indent fuel ⟨gap.blanks ++ [c], []⟩ (cursor.advance 1)
          else if isBreak c then
            readGap indent fuel ⟨[], gap.breaks ++ [cursor.breakText]⟩ cursor.nextLine
          else some (gap, cursor)
      | Option.none => some (gap, cursor)

def gapAfter (indent : Nat) (gap : Gap) (cursor : Cursor) : Option (Gap × Cursor) :=
  readGap indent (cursor.rest.length + 1) gap cursor

def isFlowIndicator (c : Char) : Bool :=
  c = ',' || c = '[' || c = ']' || c = '\x7b' || c = '\x7d'

def endsPlain (flow : Bool) : List Char → Bool
  | [] => true
  | ':' :: rest => rest.head?.all isSpace
  | c :: _ => isSpace c || (flow && isFlowIndicator c)

/-- A colon inside a flow collection that neither ends a plain scalar nor belongs to one. -/
def misplacedColon (flow : Bool) : List Char → Bool
  | ':' :: c :: _ => flow && (isFlowIndicator c || c = '?')
  | _ => false

def plainWord (flow : Bool) : List Char → Option (List Char)
  | [] => some []
  | c :: rest =>
      if misplacedColon flow (c :: rest) then none
      else if endsPlain flow (c :: rest) then some []
      else (plainWord flow rest).map (c :: ·)

/-- A scalar read in any style; `newLine` when a line break was crossed behind it. -/
structure Reading where
  text : List Char
  newLine : Bool
  next : Cursor
  deriving DecidableEq

def Reading.behind (text : List Char) (reading : Reading) : Reading :=
  { reading with text := text ++ reading.text }

def readPlain (flow : Bool) (indent : Nat) : (fuel : Nat) → Gap → Cursor → Option Reading
  | 0, _, _ => none
  | fuel + 1, gap, cursor =>
      if cursor.atDocumentMarker || cursor.startsWith '#' then
        some ⟨[], gap.crossesLine, cursor⟩
      else
        match plainWord flow cursor.rest with
        | none => none
        | some [] => some ⟨[], gap.crossesLine, cursor⟩
        | some word =>
            let text := gap.text ++ word
            let cursor := cursor.advance word.length
            if cursor.spaceAt 0 && !cursor.atEnd then
              match gapAfter indent .none cursor with
              | none => none
              | some (gap, cursor) =>
                  if ¬flow ∧ cursor.column < indent then some ⟨text, gap.crossesLine, cursor⟩
                  else (readPlain flow indent fuel gap cursor).map (·.behind text)
            else some ⟨text, false, cursor⟩

def numberEscape? (digits : Nat) (rest : List Char) : Option (Char × Nat) := do
  if rest.length < digits then none
  else return (← Text.scalar? (← Text.natural? 16 (rest.take digits)), digits + 2)

def escape? : List Char → Option (Char × Nat)
  | '0' :: _ => some ('\x00', 2)
  | 'a' :: _ => some ('\x07', 2)
  | 'b' :: _ => some ('\x08', 2)
  | 't' :: _ => some ('\t', 2)
  | '\t' :: _ => some ('\t', 2)
  | 'n' :: _ => some ('\n', 2)
  | 'v' :: _ => some ('\x0b', 2)
  | 'f' :: _ => some ('\x0c', 2)
  | 'r' :: _ => some ('\r', 2)
  | 'e' :: _ => some ('\x1b', 2)
  | ' ' :: _ => some (' ', 2)
  | '"' :: _ => some ('"', 2)
  | '/' :: _ => some ('/', 2)
  | '\\' :: _ => some ('\\', 2)
  | 'N' :: _ => some ('\u0085', 2)
  | '_' :: _ => some ('\u00a0', 2)
  | 'L' :: _ => some ('\u2028', 2)
  | 'P' :: _ => some ('\u2029', 2)
  | 'x' :: rest => numberEscape? 2 rest
  | 'u' :: rest => numberEscape? 4 rest
  | 'U' :: rest => numberEscape? 8 rest
  | _ => none

inductive WordEnd where
  | plain
  | escapedBreak
  deriving DecidableEq

/-- Read the characters of a quoted scalar up to a blank, a line break or the closing quote. -/
def quotedWord (double : Bool) : (fuel : Nat) → Cursor → Option (List Char × WordEnd × Cursor)
  | 0, _ => none
  | fuel + 1, cursor =>
      match cursor.rest with
      | [] => some ([], .plain, cursor)
      | c :: rest =>
          if isSpace c then some ([], .plain, cursor)
          else if double then
            if c = '"' then some ([], .plain, cursor)
            else if c = '\\' then
              if rest.head?.any isBreak then
                some ([], .escapedBreak, (cursor.advance 1).nextLine)
              else
                match escape? rest with
                | none => none
                | some (escaped, width) =>
                    (quotedWord double fuel (cursor.advance width)).map
                      fun (more, stop, cursor) => (escaped :: more, stop, cursor)
            else
              (quotedWord double fuel (cursor.advance 1)).map
                fun (more, stop, cursor) => (c :: more, stop, cursor)
          else if c = '\'' then
            if rest.head? = some '\'' then
              (quotedWord double fuel (cursor.advance 2)).map
                fun (more, stop, cursor) => ('\'' :: more, stop, cursor)
            else some ([], .plain, cursor)
          else
            (quotedWord double fuel (cursor.advance 1)).map
              fun (more, stop, cursor) => (c :: more, stop, cursor)

def WordEnd.gap : WordEnd → Gap
  | .plain => .none
  | .escapedBreak => ⟨[], [[]]⟩

def readQuoted (double : Bool) : (fuel : Nat) → Cursor → Option Reading
  | 0, _ => none
  | fuel + 1, cursor =>
      if cursor.atDocumentMarker || cursor.atEnd then none
      else
        match quotedWord double (cursor.rest.length + 1) cursor with
        | none => none
        | some (word, stop, cursor) =>
            if cursor.startsWith (if double then '"' else '\'') then
              some ⟨word, false, cursor.advance 1⟩
            else
              match gapAfter 0 stop.gap cursor with
              | none => none
              | some (gap, cursor) =>
                  (readQuoted double fuel cursor).map (·.behind (word ++ gap.text))

/-- What becomes of the line breaks at the end of a block scalar. -/
inductive Chomping where
  | strip
  | clip
  | keep
  deriving DecidableEq

def chomping? : Char → Option Chomping
  | '+' => some .keep
  | '-' => some .strip
  | _ => none

/-- An indentation given by a digit other than zero; a zero is an error. -/
def indentation? (cursor : Cursor) : Option (Nat × Cursor) :=
  match cursor.head? with
  | some c =>
      if c = '0' then none
      else if c.isDigit then some (c.toNat - '0'.toNat, cursor.advance 1)
      else some (0, cursor)
  | none => some (0, cursor)

def blockHeader? (cursor : Cursor) : Option (Chomping × Nat × Cursor) :=
  match cursor.head?.bind chomping? with
  | some chomping => (indentation? (cursor.advance 1)).map fun (indent, cursor) =>
      (chomping, indent, cursor)
  | none =>
      match indentation? cursor with
      | none => none
      | some (0, cursor) => some (.clip, 0, cursor)
      | some (indent, cursor) =>
          match cursor.head?.bind chomping? with
          | some chomping => some (chomping, indent, cursor.advance 1)
          | none => some (.clip, indent, cursor)

/--
Read empty lines of a block scalar and the indentation behind them; an indentation of zero is not
yet known. The result has the line breaks and the deepest column reached.
-/
def readEmptyLines (indent : Nat) :
    (fuel : Nat) → (breaks : List Char) → (deepest : Nat) → Cursor →
      Option (List Char × Nat × Cursor)
  | 0, _, _, _ => none
  | fuel + 1, breaks, deepest, cursor =>
      let indented := cursor.rest.takeWhile (· = ' ')
      let width :=
        if indent = 0 then indented.length else min indented.length (indent - cursor.column)
      let cursor := cursor.advance width
      let deepest := max deepest cursor.column
      if (indent = 0 ∨ cursor.column < indent) ∧ cursor.startsWith '\t' then none
      else if cursor.atBreak then
        readEmptyLines indent fuel (breaks ++ cursor.breakText) deepest cursor.nextLine
      else some (breaks, deepest, cursor)

def emptyLines (indent : Nat) (cursor : Cursor) : Option (List Char × Nat × Cursor) :=
  readEmptyLines indent (cursor.rest.length + 1) [] 0 cursor

/-- The end of the lines of a block scalar read so far: line breaks that may still be folded. -/
structure LineEnd where
  lastBreak : List Char
  emptyBreaks : List Char
  indented : Bool
  deriving DecidableEq

namespace LineEnd

/-- The text between the lines and a further one that does or does not begin with a blank. -/
def joint (stop : LineEnd) (folded indented : Bool) : List Char :=
  if folded ∧ stop.lastBreak = ['\n'] ∧ ¬stop.indented ∧ ¬indented then
    if stop.emptyBreaks = [] then [' '] else stop.emptyBreaks
  else stop.lastBreak ++ stop.emptyBreaks

def chomped (stop : LineEnd) : Chomping → List Char
  | .strip => []
  | .clip => stop.lastBreak
  | .keep => stop.lastBreak ++ stop.emptyBreaks

end LineEnd

def readLines (folded : Bool) (chomping : Chomping) (indent : Nat) :
    (fuel : Nat) → LineEnd → Cursor → Option Reading
  | 0, _, _ => none
  | fuel + 1, stop, cursor =>
      if cursor.column = indent ∧ ¬cursor.atEnd then
        let indented := cursor.atBlank
        let (content, cursor) := cursor.span fun c => !isBreak c
        let lastBreak := cursor.breakText
        match emptyLines indent (if cursor.atEnd then cursor else cursor.nextLine) with
        | none => none
        | some (emptyBreaks, _, cursor) =>
            (readLines folded chomping indent fuel ⟨lastBreak, emptyBreaks, indented⟩ cursor).map
              (·.behind (stop.joint folded indented ++ content))
      else some ⟨stop.chomped chomping, true, cursor⟩

def readBlock (folded : Bool) (least : Nat) (cursor : Cursor) : Option Reading := do
  let (chomping, given, cursor) ← blockHeader? cursor
  let cursor ← cursor.finishLine
  let fixed := if given = 0 then 0 else least - 1 + given
  let (breaks, deepest, cursor) ← emptyLines fixed cursor
  let indent := if fixed = 0 then max deepest (max least 1) else fixed
  readLines folded chomping indent (cursor.rest.length + 2) ⟨[], breaks, false⟩ cursor

end ReportCharts.Yaml
