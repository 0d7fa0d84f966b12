/-!
Places in a YAML text: what is left to read, and the line and column reached.
-/

namespace ReportCharts.Yaml

def isBreak (c : Char) : Bool :=
  c = '\n' || c = '\r' || c = '\u0085' || c = '\u2028' || c = '\u2029'

def isBlank (c : Char) : Bool := c = ' ' || c = '\t'

def isSpace (c : Char) : Bool := isBlank c || isBreak c

/-- Characters of the names of anchors, directives and tag handles. -/
def isWord (c : Char) : Bool := c.isAlphanum || c = '_' || c = '-'

def isAllowed (c : Char) : Bool :=
  c = '\t' || c = '\n' || c = '\r' || (0x20 ≤ c.toNat && c.toNat ≤ 0x7e) || c.toNat = 0x85 ||
    (0xa0 ≤ c.toNat && c.toNat ≤ 0xfffd) || 0x10000 ≤ c.toNat

def octets : List Char → Nat
  | [] => 0
  | c :: rest => c.utf8Size + octets rest

@[simp]
theorem octets_append (first second : List Char) :
    octets (first ++ second) = octets first + octets second := by
  induction first with
  | nil => simp [octets]
  | cons c rest inductionHypothesis => simp [octets, inductionHypothesis, Nat.add_assoc]

structure Cursor where
  rest : List Char
  index : Nat
  line : Nat
  column : Nat
  deriving DecidableEq

namespace Cursor

def start (text : List Char) : Cursor := ⟨text, 0, 0, 0⟩

def advance (count : Nat) (cursor : Cursor) : Cursor where
  rest := cursor.rest.drop count
  index := cursor.index + octets (cursor.rest.take count)
  line := cursor.line
  column := cursor.column + count

@[simp]
theorem rest_advance (count : Nat) (cursor : Cursor) :
    (cursor.advance count).rest = cursor.rest.drop count := rfl

@[simp]
theorem advance_zero (cursor : Cursor) : cursor.advance 0 = cursor := rfl

theorem advance_advance (first second : Nat) (cursor : Cursor) :
    (cursor.advance first).advance second = cursor.advance (first + second) := by
  simp [advance, Nat.add_assoc, List.take_add]

def span (test : Char → Bool) (cursor : Cursor) : List Char × Cursor :=
  let taken := cursor.rest.takeWhile test
  (taken, cursor.advance taken.length)

def skipWhile (test : Char → Bool) (cursor : Cursor) : Cursor := (cursor.span test).2

def nextLine (cursor : Cursor) : Cursor :=
  let width :=
    match cursor.rest with
    | '\r' :: '\n' :: _ => 2
    | _ => 1
  ⟨cursor.rest.drop width, cursor.index + octets (cursor.rest.take width), cursor.line + 1, 0⟩

def head? (cursor : Cursor) : Option Char := cursor.rest.head?

def startsWith (c : Char) (cursor : Cursor) : Bool := cursor.head? == some c

def atBreak (cursor : Cursor) : Bool := cursor.head?.any isBreak

def atBlank (cursor : Cursor) : Bool := cursor.head?.any isBlank

def atEnd (cursor : Cursor) : Bool := cursor.rest.isEmpty

/-- The character some places ahead is a blank, a line break or the end of the text. -/
def spaceAt (offset : Nat) (cursor : Cursor) : Bool := (cursor.rest[offset]?).all isSpace

/-- A marker of three characters, alone at the beginning of a line. -/
def atMarker (marker : List Char) (cursor : Cursor) : Bool :=
  cursor.column = 0 && cursor.rest.take 3 == marker && cursor.spaceAt 3

def atDocumentMarker (cursor : Cursor) : Bool :=
  cursor.atMarker ['-', '-', '-'] || cursor.atMarker ['.', '.', '.']

/-- A line break as text: all but two kinds become a line feed. -/
def breakText (cursor : Cursor) : List Char :=
  match cursor.head? with
  | some c => if c = '\u2028' || c = '\u2029' then [c] else ['\n']
  | none => []

/-- Move over blanks, a comment and up to a line break; nothing else may stand there. -/
def finishLine (cursor : Cursor) : Option Cursor :=
  let cursor := cursor.skipWhile isBlank
  let cursor :=
    if cursor.startsWith '#' then cursor.skipWhile fun c => !isBreak c else cursor
  if cursor.atEnd then some cursor
  else if cursor.atBreak then some cursor.nextLine
  else none

end Cursor

end ReportCharts.Yaml
