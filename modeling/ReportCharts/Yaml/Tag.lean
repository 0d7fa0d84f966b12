import ReportCharts.Text.Digits
import ReportCharts.Yaml.Cursor

/-!
Tags of YAML nodes and the directives that tags rest on.

A tag is written in full, or as a handle that stands for the beginning of tags and the rest of the
tag. Escaped octets that spell no character make a tag garbled: it is a tag, but of no name.
-/

namespace ReportCharts.Yaml

inductive Tag where
  | named (name : String)
  | garbled
  deriving DecidableEq

namespace Tag

def append : Tag → Tag → Tag
  | named stem, named rest => named (stem ++ rest)
  | _, _ => garbled

instance : Append Tag := ⟨append⟩

/-- The tag of characters up to a null character; what is no character garbles it. -/
def ofChars (chars : List (Option Char)) : Tag :=
  match (chars.takeWhile (· != some '\x00')).mapM id with
  | some chars => named (String.ofList chars)
  | none => garbled

def core (name : String) : Tag := named ("tag:yaml.org,2002:" ++ name)

end Tag

/-- Characters of a tag; the flow indicators among them only where nothing else can follow. -/
def isTagChar (verbatim : Bool) (c : Char) : Bool :=
  isWord c || ";/?:@&=+$.%!~*'()".contains c || (verbatim && (c = ',' || c = '[' || c = ']'))

def octet? : List Char → Option (Nat × List Char)
  | '%' :: high :: low :: rest => do
      return (16 * (← Text.hexDigit? high) + (← Text.hexDigit? low), rest)
  | _ => none

/-- How many octets follow a leading octet, and the bits it begins a character with. -/
def leadingOctet? (octet : Nat) : Option (Nat × Nat) :=
  if octet < 0x80 then some (0, octet)
  else if octet < 0xc0 then none
  else if octet < 0xe0 then some (1, octet - 0xc0)
  else if octet < 0xf0 then some (2, octet - 0xe0)
  else if octet < 0xf8 then some (3, octet - 0xf0)
  else none

def followingOctets? : (count code : Nat) → List Char → Option (Nat × List Char)
  | 0, code, rest => some (code, rest)
  | count + 1, code, text => do
      let (octet, rest) ← octet? text
      if 0x80 ≤ octet ∧ octet < 0xc0 then followingOctets? count (64 * code + (octet - 0x80)) rest
      else none

def leastCode : Nat → Nat
  | 0 => 0
  | 1 => 0x80
  | 2 => 0x800
  | _ => 0x10000

/-- The character of a code that is written with no more octets than it needs. -/
def octetsChar? (count code : Nat) : Option Char :=
  if leastCode count ≤ code then Text.scalar? code else none

def escapedChar? (text : List Char) : Option (Option Char × List Char) := do
  let (octet, rest) ← octet? text
  let (count, bits) ← leadingOctet? octet
  let (code, rest) ← followingOctets? count bits rest
  return (octetsChar? count code, rest)

def tagChars? (verbatim : Bool) : (fuel : Nat) → List Char → Option (List (Option Char))
  | 0, _ => none
  | _ + 1, [] => some []
  | fuel + 1, c :: rest =>
      if c = '%' then
        match escapedChar? (c :: rest) with
        | some (escaped, rest) => (tagChars? verbatim fuel rest).map (escaped :: ·)
        | none => none
      else if isTagChar verbatim c then (tagChars? verbatim fuel rest).map (some c :: ·)
      else some []

def readTagRest (verbatim : Bool) (head : List Char) (cursor : Cursor) : Option (Tag × Cursor) :=
  (tagChars? verbatim (cursor.rest.length + 1) cursor.rest).map fun chars =>
    (.ofChars (head.map some ++ chars), cursor.skipWhile (isTagChar verbatim))

def readTagText (verbatim : Bool) (cursor : Cursor) : Option (Tag × Cursor) :=
  if cursor.head?.any (isTagChar verbatim) then readTagRest verbatim [] cursor else none

inductive TagMark where
  | full (tag : Tag)
  | short (handle : String) (rest : Tag)
  deriving DecidableEq

def readTag (flow : Bool) (cursor : Cursor) : Option (TagMark × Cursor) := do
  let (mark, cursor) ←
    if cursor.rest.take 2 = ['!', '<'] then
      match readTagText true (cursor.advance 2) with
      | some (tag, cursor) =>
          if cursor.startsWith '>' then some (TagMark.full tag, cursor.advance 1) else none
      | none => none
    else
      let (word, behind) := (cursor.advance 1).span isWord
      if behind.startsWith '!' then
        (readTagText false (behind.advance 1)).map fun (rest, cursor) =>
          (TagMark.short ("!" ++ String.ofList word ++ "!") rest, cursor)
      else
        (readTagRest false word behind).map fun (rest, cursor) =>
          (if rest = .named "" then .full (.named "!") else .short "!" rest, cursor)
  if cursor.spaceAt 0 || (flow && cursor.startsWith ',') then some (mark, cursor) else none

/-- The beginnings of tags that handles stand for. -/
abbrev Handles := List (String × Tag)

namespace Handles

def default : Handles := [("!", .named "!"), ("!!", .core "")]

def resolve? (handles : Handles) : TagMark → Option Tag
  | .full tag => some tag
  | .short handle rest => (handles.lookup handle).map (· ++ rest)

end Handles

inductive Directive where
  | version (major minor : Nat)
  | handle (handle : String) (stem : Tag)
  deriving DecidableEq

def readVersionPart (cursor : Cursor) : Option (Nat × Cursor) :=
  let (digits, cursor) := cursor.span Char.isDigit
  if 9 < digits.length then none else (Text.natural? 10 digits).map fun value => (value, cursor)

def readVersion (cursor : Cursor) : Option (Directive × Cursor) := do
  let (major, cursor) ← readVersionPart (cursor.skipWhile isBlank)
  if cursor.startsWith '.' then
    let (minor, cursor) ← readVersionPart (cursor.advance 1)
    return (.version major minor, cursor)
  else none

def readHandle (cursor : Cursor) : Option (Directive × Cursor) := do
  let cursor := cursor.skipWhile isBlank
  if cursor.startsWith '!' then
    let (word, cursor) := (cursor.advance 1).span isWord
    let (handle, cursor) ←
      if cursor.startsWith '!' then some ("!" ++ String.ofList word ++ "!", cursor.advance 1)
      else if word.isEmpty then some ("!", cursor)
      else none
    if cursor.atBlank then
      let (stem, cursor) ← readTagText true (cursor.skipWhile isBlank)
      if cursor.spaceAt 0 then some (.handle handle stem, cursor) else none
    else none
  else none

def readDirective (cursor : Cursor) : Option (Directive × Cursor) := do
  let (name, cursor) := cursor.span isWord
  let (directive, cursor) ←
    if ¬cursor.spaceAt 0 then none
    else if name = "YAML".toList then readVersion cursor
    else if name = "TAG".toList then readHandle cursor
    else none
  return (directive, ← cursor.finishLine)

end ReportCharts.Yaml
