import ReportCharts.Toml.Scalar

/-!
TOML documents: values with their arrays and tables in braces, and the lines that make up a
document.
-/

namespace ReportCharts.Toml

mutual

def readValue : (fuel depth : Nat) → List Char → Option (Value × List Char)
  | 0, _, _ => none
  | fuel + 1, depth, text =>
      match text with
      | [] => none
      | c :: rest =>
          if c = '"' ∨ c = '\'' then
            (readQuoted c text).map fun (chars, rest) => (.string (String.ofList chars), rest)
          else if c = '[' then
            if depth + 1 < nestingLimit then
              (readItems fuel (depth + 1) (skipLines text.length rest)).map fun (items, rest) =>
                (.array items, rest)
            else none
          else if c = '\x7b' then
            if depth + 1 < nestingLimit then
              let inside := skipBlanks rest
              if inside.head? = some '\x7d' then some (.table .braces [], inside.tail)
              else
                (readMembers fuel (depth + 1) [] inside).map fun (entries, rest) =>
                  (.table .braces entries, rest)
            else none
          else
            let (word, rest) := takeWord text
            (Value.ofWord? word).map fun value => (value, rest)

/-- Read the items of an array; a comma may follow the last. -/
def readItems : (fuel depth : Nat) → List Char → Option (List Value × List Char)
  | 0, _, _ => none
  | fuel + 1, depth, text =>
      match text with
      | ']' :: rest => some ([], rest)
      | _ => do
          let (item, rest) ← readValue fuel depth text
          match skipLines text.length rest with
          | ',' :: rest =>
              let (items, rest) ← readItems fuel depth (skipLines text.length rest)
              return (item :: items, rest)
          | ']' :: rest => return ([item], rest)
          | _ => none

/-- Read members of a table in braces, all on one line; no comma follows the last. -/
def readMembers : (fuel depth : Nat) → Entries → List Char → Option (Entries × List Char)
  | 0, _, _, _ => none
  | fuel + 1, depth, entries, text => do
      let (path, rest) ← path? text
      match rest with
      | '=' :: rest =>
          let (value, rest) ← readValue fuel depth (skipBlanks rest)
          let entries ← entries.insert path value .braces
          match skipBlanks rest with
          | ',' :: rest => readMembers fuel depth entries rest
          | '\x7d' :: rest => return (entries, rest)
          | _ => none
      | _ => none

end

/-- A line of a document, which may be a value over several lines. -/
inductive Line where
  | blank
  | member (path : Path) (value : Value)
  | table (path : Path)
  | element (path : Path)

def readLine (text : List Char) : Option (Line × List Char) := do
  match skipBlanks text with
  | '[' :: '[' :: rest =>
      match ← path? rest with
      | (path, ']' :: ']' :: rest) => return (.element path, ← finishLine? rest)
      | _ => none
  | '[' :: rest =>
      match ← path? rest with
      | (path, ']' :: rest) => return (.table path, ← finishLine? rest)
      | _ => none
  | rest =>
      match finishLine? rest with
      | some rest => return (.blank, rest)
      | none =>
          match ← path? rest with
          | (path, '=' :: rest) =>
              let (value, rest) ← readValue (2 * text.length + 2) 0 (skipBlanks rest)
              return (.member path value, ← finishLine? rest)
          | _ => none

def readAllLines : (fuel : Nat) → List Char → Option (List Line)
  | 0, _ => none
  | _ + 1, [] => some []
  | fuel + 1, text => do
      let (line, rest) ← readLine text
      return line :: (← readAllLines fuel rest)

/-- A document as it grows: its entries, and the way to the table of the last header. -/
structure Document where
  entries : Entries := []
  header : List String := []

namespace Document

def add (document : Document) : Line → Option Document
  | .blank => some document
  | .member path value => do
      return ⟨← document.entries.insertUnder document.header path value, document.header⟩
  | .table path => do return ⟨← document.entries.beginTable path, path.tables ++ [path.key]⟩
  | .element path => do return ⟨← document.entries.beginElement path, path.tables ++ [path.key]⟩

def ofText? (text : String) : Option Document := do
  let text := text.toList
  let text := if text.head? = some '\ufeff' then text.tail else text
  (← readAllLines (text.length + 1) text).foldlM add {}

end Document

end ReportCharts.Toml
