import ReportCharts.Text.Digits

/-!
Blanks, line ends, comments and strings of TOML texts.

A string stands in double quotes with escapes or in single quotes without; three quotes begin one
that may run over lines.
-/

namespace ReportCharts.Toml

def isBlank (c : Char) : Bool := c = ' ' || c = '\t'

/-- Characters of strings and comments: all but control characters, the tab excepted. -/
def isTextChar (c : Char) : Bool := c = '\t' || (0x20 ≤ c.toNat && c.toNat ≠ 0x7f)

def skipBlanks (text : List Char) : List Char := text.dropWhile isBlank

def newLine? : List Char → Option (List Char)
  | '\n' :: rest => some rest
  | '\r' :: '\n' :: rest => some rest
  | _ => none

def skipComment : List Char → List Char
  | '#' :: rest => rest.dropWhile isTextChar
  | text => text

/-- Move over the rest of a line, on which only blanks and a comment may stand. -/
def finishLine? (text : List Char) : Option (List Char) :=
  let rest := skipComment (skipBlanks text)
  if rest.isEmpty then some [] else newLine? rest

def skipSpace : List Char → List Char
  | '\n' :: rest => skipSpace rest
  | '\r' :: '\n' :: rest => skipSpace rest
  | c :: rest => if isBlank c then skipSpace rest else c :: rest
  | [] => []

def skipLines : (fuel : Nat) → List Char → List Char
  | 0, text => text
  | fuel + 1, text =>
      match skipSpace text with
      | '#' :: rest => skipLines fuel (rest.dropWhile isTextChar)
      | rest => rest

def numberEscape? (digits : Nat) (text : List Char) : Option (Char × List Char) :=
  if text.length < digits then none
  else do return (← Text.scalar? (← Text.natural? 16 (text.take digits)), text.drop digits)

def escape? : List Char → Option (Char × List Char)
  | 'b' :: rest => some ('\x08', rest)
  | 't' :: rest => some ('\t', rest)
  | 'n' :: rest => some ('\n', rest)
  | 'f' :: rest => some ('\x0c', rest)
  | 'r' :: rest => some ('\r', rest)
  | '"' :: rest => some ('"', rest)
  | '\\' :: rest => some ('\\', rest)
  | 'u' :: rest => numberEscape? 4 rest
  | 'U' :: rest => numberEscape? 8 rest
  | _ => none

/-- What a string consists of, and the text behind its closing quotes. -/
abbrev StringRead := Option (List Char × List Char)

def StringRead.behind (chars : List Char) (read : StringRead) : StringRead :=
  read.map fun (more, rest) => (chars ++ more, rest)

def readString (quote : Char) : (fuel : Nat) → List Char → StringRead
  | 0, _ => none
  | _ + 1, [] => none
  | fuel + 1, c :: rest =>
      if c = quote then some ([], rest)
      else if c = '\\' ∧ quote = '"' then
        match escape? rest with
        | some (c, rest) => (readString quote fuel rest).behind [c]
        | none => none
      else if isTextChar c then (readString quote fuel rest).behind [c]
      else none

/--
Read a string of lines behind its opening quotes.

Up to two quotes may stand anywhere in it, and also before the three that close it. A backslash at
the end of a line takes all space behind it away.
-/
def readLines (quote : Char) : (fuel : Nat) → List Char → StringRead
  | 0, _ => none
  | _ + 1, [] => none
  | fuel + 1, c :: rest =>
      if c = quote then
        let quotes := (c :: rest).takeWhile (· = quote)
        let behind := (c :: rest).dropWhile (· = quote)
        if quotes.length < 3 then (readLines quote fuel behind).behind quotes
        else
          let inside := min (quotes.length - 3) 2
          some (List.replicate inside quote, (c :: rest).drop (inside + 3))
      else if c = '\\' ∧ quote = '"' then
        if (newLine? (skipBlanks rest)).isSome then readLines quote fuel (skipSpace rest)
        else
          match escape? rest with
          | some (c, rest) => (readLines quote fuel rest).behind [c]
          | none => none
      else
        match newLine? (c :: rest) with
        | some rest => (readLines quote fuel rest).behind ['\n']
        | none => if isTextChar c then (readLines quote fuel rest).behind [c] else none

def readQuoted (quote : Char) (text : List Char) : StringRead :=
  if text.take 3 = [quote, quote, quote] then
    let body := text.drop 3
    readLines quote (text.length + 1) ((newLine? body).getD body)
  else readString quote (text.length + 1) (text.drop 1)

def isBareKeyChar (c : Char) : Bool := c.isAlphanum || c = '-' || c = '_'

def readKeyPart (text : List Char) : Option (String × List Char) :=
  let named (read : StringRead) : Option (String × List Char) :=
    read.map fun (part, rest) => (String.ofList part, rest)
  match text with
  | '"' :: rest => named (readString '"' text.length rest)
  | '\'' :: rest => named (readString '\'' text.length rest)
  | _ =>
      let part := text.takeWhile isBareKeyChar
      if part.isEmpty then none else named (some (part, text.dropWhile isBareKeyChar))

/-- A dotted key: the tables it leads through, and a key in the last of them. -/
structure Path where
  tables : List String
  key : String
  deriving DecidableEq

def readPath : (fuel : Nat) → List Char → Option (Path × List Char)
  | 0, _ => none
  | fuel + 1, text => do
      let (part, rest) ← readKeyPart (skipBlanks text)
      match skipBlanks rest with
      | '.' :: rest =>
          let (path, rest) ← readPath fuel rest
          return (⟨part :: path.tables, path.key⟩, rest)
      | rest => return (⟨[], part⟩, rest)

/-- The most that may be nested: brackets in values, and parts of a key. -/
def nestingLimit : Nat := 80

def path? (text : List Char) : Option (Path × List Char) := do
  let (path, rest) ← readPath (text.length + 1) text
  if path.tables.length + 1 < nestingLimit then some (path, rest) else none

end ReportCharts.Toml
