import ReportCharts.Yaml.Token

/-!
Nodes of YAML documents; the tags of collections are not kept.

Anchors are numbered by how many names are in use when they are met, so that a name used again may
share its number with a later one; an alias stands for the last node of its number.
-/

namespace ReportCharts.Yaml

inductive Node where
  | scalar (anchor : Option Nat) (tag : Option Tag) (style : Style) (text : String)
  | sequence (anchor : Option Nat) (items : List Node)
  | mapping (anchor : Option Nat) (entries : List (Node × Node))
  | reference (anchor : Nat)

namespace Node

def empty : Node := scalar none none .plain ""

mutual

/-- The last node with an anchor, if there is one inside. -/
def anchored? (number : Nat) : Node → Option Node
  | scalar anchor tag style text =>
      if anchor = some number then some (scalar anchor tag style text) else none
  | sequence anchor items =>
      itemAnchored? number items <|>
        if anchor = some number then some (sequence anchor items) else none
  | mapping anchor entries =>
      entryAnchored? number entries <|>
        if anchor = some number then some (mapping anchor entries) else none
  | reference _ => none

def itemAnchored? (number : Nat) : List Node → Option Node
  | [] => none
  | item :: rest => itemAnchored? number rest <|> anchored? number item

def entryAnchored? (number : Nat) : List (Node × Node) → Option Node
  | [] => none
  | (key, value) :: rest =>
      entryAnchored? number rest <|> anchored? number value <|> anchored? number key

end

end Node

/-- The tokens left of a document, and the numbers of the anchors met before them. -/
structure Tokens where
  rest : List Token
  anchors : List (String × Nat)
  deriving DecidableEq

namespace Tokens

def behind (rest : List Token) (tokens : Tokens) : Tokens := { tokens with rest := rest }

def define (name : String) (tokens : Tokens) : Nat × Tokens :=
  let number := tokens.anchors.length
  let others := tokens.anchors.filter fun anchor => anchor.1 != name
  (number, { tokens with anchors := (name, number) :: others })

def expect (token : Token) (tokens : Tokens) : Option Tokens :=
  match tokens.rest with
  | next :: rest => if next = token then some (tokens.behind rest) else none
  | [] => none

def atAny (ends : List Token) (tokens : Tokens) : Bool := tokens.rest.head?.any ends.contains

end Tokens

/--
Where a node stands: inside a flow collection, in a block, or where a sequence needs no indentation.
-/
inductive Position where
  | flow
  | block
  | blockEntry
  deriving DecidableEq

structure Properties where
  anchor : Option String := none
  tag : Option Tag := none
  deriving DecidableEq

namespace Properties

def read (handles : Handles) (tokens : Tokens) : Option (Properties × Tokens) :=
  match tokens.rest with
  | .anchor name :: .tag mark :: rest =>
      (handles.resolve? mark).map fun tag => (⟨some name, some tag⟩, tokens.behind rest)
  | .tag mark :: .anchor name :: rest =>
      (handles.resolve? mark).map fun tag => (⟨some name, some tag⟩, tokens.behind rest)
  | .anchor name :: rest => some (⟨some name, none⟩, tokens.behind rest)
  | .tag mark :: rest =>
      (handles.resolve? mark).map fun tag => (⟨none, some tag⟩, tokens.behind rest)
  | _ => some (⟨none, none⟩, tokens)

def define (properties : Properties) (tokens : Tokens) : Option Nat × Tokens :=
  match properties.anchor with
  | some name =>
      let (number, tokens) := tokens.define name
      (some number, tokens)
  | none => (none, tokens)

/-- A node that is left out behind properties, of which there must be one. -/
def leave (properties : Properties) (anchor : Option Nat) (tokens : Tokens) :
    Option (Node × Tokens) :=
  if properties.anchor.isNone ∧ properties.tag.isNone then none
  else some (.scalar anchor properties.tag .plain "", tokens)

end Properties

namespace Node

mutual

def read (handles : Handles) (position : Position) : (fuel : Nat) → Tokens → Option (Node × Tokens)
  | 0, _ => none
  | fuel + 1, tokens =>
      match tokens.rest with
      | .reference name :: rest =>
          (tokens.anchors.lookup name).map fun number => (.reference number, tokens.behind rest)
      | _ => do
          let (properties, tokens) ← Properties.read handles tokens
          let (anchor, inner) := properties.define tokens
          match tokens.rest with
          | .scalar style text :: rest =>
              some (.scalar anchor properties.tag style text, inner.behind rest)
          | .flowSequence :: rest =>
              let (items, tokens) ← readFlowItems handles true fuel (inner.behind rest)
              return (.sequence anchor items, tokens)
          | .flowMapping :: rest =>
              let (entries, tokens) ← readFlowEntries handles true fuel (inner.behind rest)
              return (.mapping anchor entries, tokens)
          | .blockEntry :: _ =>
              if position = .blockEntry then
                let (items, tokens) ← readPlainItems handles fuel inner
                return (.sequence anchor items, tokens)
              else properties.leave anchor inner
          | .blockSequence :: rest =>
              if position = .flow then properties.leave anchor inner
              else
                let (items, tokens) ← readBlockItems handles fuel (inner.behind rest)
                return (.sequence anchor items, tokens)
          | .blockMapping :: rest =>
              if position = .flow then properties.leave anchor inner
              else
                let (entries, tokens) ← readBlockEntries handles fuel (inner.behind rest)
                return (.mapping anchor entries, tokens)
          | _ => properties.leave anchor inner

def readUnless (ends : List Token) (handles : Handles) (position : Position) :
    (fuel : Nat) → Tokens → Option (Node × Tokens)
  | 0, _ => none
  | fuel + 1, tokens =>
      if tokens.atAny ends then some (empty, tokens) else read handles position fuel tokens

def readBlockItems (handles : Handles) : (fuel : Nat) → Tokens → Option (List Node × Tokens)
  | 0, _ => none
  | fuel + 1, tokens =>
      match tokens.rest with
      | .blockEnd :: rest => some ([], tokens.behind rest)
      | .blockEntry :: rest => do
          let (item, tokens) ←
            readUnless [.blockEntry, .blockEnd] handles .block fuel (tokens.behind rest)
          let (items, tokens) ← readBlockItems handles fuel tokens
          return (item :: items, tokens)
      | _ => none

/-- Read the items of a sequence that is not indented; anything else ends it. -/
def readPlainItems (handles : Handles) : (fuel : Nat) → Tokens → Option (List Node × Tokens)
  | 0, _ => none
  | fuel + 1, tokens =>
      match tokens.rest with
      | .blockEntry :: rest => do
          let (item, tokens) ←
            readUnless [.blockEntry, .key, .value, .blockEnd] handles .block fuel
              (tokens.behind rest)
          let (items, tokens) ← readPlainItems handles fuel tokens
          return (item :: items, tokens)
      | _ => some ([], tokens)

def readBlockEntries (handles : Handles) :
    (fuel : Nat) → Tokens → Option (List (Node × Node) × Tokens)
  | 0, _ => none
  | fuel + 1, tokens =>
      match tokens.rest with
      | .blockEnd :: rest => some ([], tokens.behind rest)
      | .key :: rest => do
          let (key, tokens) ←
            readUnless [.key, .value, .blockEnd] handles .blockEntry fuel (tokens.behind rest)
          let (value, tokens) ←
            match tokens.rest with
            | .value :: rest =>
                readUnless [.key, .value, .blockEnd] handles .blockEntry fuel (tokens.behind rest)
            | _ => some (empty, tokens)
          let (entries, tokens) ← readBlockEntries handles fuel tokens
          return ((key, value) :: entries, tokens)
      | _ => none

/-- Read the items of a flow sequence; a key in it is a mapping of one entry. -/
def readFlowItems (handles : Handles) (first : Bool) :
    (fuel : Nat) → Tokens → Option (List Node × Tokens)
  | 0, _ => none
  | fuel + 1, tokens =>
      match tokens.rest with
      | .flowSequenceEnd :: rest => some ([], tokens.behind rest)
      | _ => do
          let tokens ← if first then some tokens else tokens.expect .flowEntry
          match tokens.rest with
          | .flowSequenceEnd :: rest => some ([], tokens.behind rest)
          | .key :: rest =>
              let (entry, tokens) ← readFlowPair handles fuel (tokens.behind rest)
              let (items, tokens) ← readFlowItems handles false fuel tokens
              return (.mapping none [entry] :: items, tokens)
          | _ =>
              let (item, tokens) ← read handles .flow fuel tokens
              let (items, tokens) ← readFlowItems handles false fuel tokens
              return (item :: items, tokens)

/--
Read an entry of a flow sequence behind its key indicator; a key left out takes a token with it.
-/
def readFlowPair (handles : Handles) : (fuel : Nat) → Tokens → Option ((Node × Node) × Tokens)
  | 0, _ => none
  | fuel + 1, tokens => do
      let (key, tokens) ←
        if tokens.atAny [.value, .flowEntry, .flowSequenceEnd] then
          some (empty, tokens.behind tokens.rest.tail)
        else read handles .flow fuel tokens
      let (value, tokens) ←
        match tokens.rest with
        | .value :: rest =>
            readUnless [.flowEntry, .flowSequenceEnd] handles .flow fuel (tokens.behind rest)
        | _ => some (empty, tokens)
      return ((key, value), tokens)

/-- Read the entries of a flow mapping; one without a key indicator has no value. -/
def readFlowEntries (handles : Handles) (first : Bool) :
    (fuel : Nat) → Tokens → Option (List (Node × Node) × Tokens)
  | 0, _ => none
  | fuel + 1, tokens =>
      match tokens.rest with
      | .flowMappingEnd :: rest => some ([], tokens.behind rest)
      | _ => do
          let tokens ← if first then some tokens else tokens.expect .flowEntry
          match tokens.rest with
          | .flowMappingEnd :: rest => some ([], tokens.behind rest)
          | .key :: rest =>
              let (key, tokens) ←
                readUnless [.value, .flowEntry, .flowMappingEnd] handles .flow fuel
                  (tokens.behind rest)
              let (value, tokens) ←
                match tokens.rest with
                | .value :: rest =>
                    readUnless [.flowEntry, .flowMappingEnd] handles .flow fuel (tokens.behind rest)
                | _ => some (empty, tokens)
              let (entries, tokens) ← readFlowEntries handles false fuel tokens
              return ((key, value) :: entries, tokens)
          | _ =>
              let (key, tokens) ← read handles .flow fuel tokens
              let (entries, tokens) ← readFlowEntries handles false fuel tokens
              return ((key, empty) :: entries, tokens)

end

end Node

/-- Read the directives of a document: at most one version, and different handles. -/
def readDirectives (versioned : Bool) (handles : Handles) :
    List Token → Option (Handles × List Token)
  | .directive (.version major minor) :: rest =>
      if versioned ∨ major ≠ 1 ∨ (minor ≠ 1 ∧ minor ≠ 2) then none
      else readDirectives true handles rest
  | .directive (.handle handle stem) :: rest =>
      if (handles.lookup handle).isSome then none
      else readDirectives versioned (handles ++ [(handle, stem)]) rest
  | tokens => some (handles ++ .default, tokens)

def beginsExplicitly : List Token → Bool
  | .directive _ :: _ => true
  | .documentStart :: _ => true
  | _ => false

def endsDocument (tokens : List Token) : Bool :=
  tokens.isEmpty || tokens.head? == some .documentEnd || beginsExplicitly tokens

namespace Node

/-- Read the content of a document, which must be the last one. -/
def readLast (handles : Handles) (tokens : List Token) : Option Node :=
  match read handles .block (4 * tokens.length + 4) ⟨tokens, []⟩ with
  | some (node, tokens) =>
      if (tokens.rest.dropWhile (· = .documentEnd)).isEmpty then some node else none
  | none => none

/-- The content of the only document of a text; of a text without documents it is left out. -/
def ofTokens? (tokens : List Token) : Option Node :=
  if tokens.isEmpty then some empty
  else if beginsExplicitly tokens then
    match readDirectives false [] tokens with
    | some (handles, .documentStart :: rest) =>
        if endsDocument rest then
          if (rest.dropWhile (· = .documentEnd)).isEmpty then some empty else none
        else readLast handles rest
    | _ => none
  else readLast .default tokens

def ofText? (text : String) : Option Node := do ofTokens? (← Token.ofText? text)

end Node

end ReportCharts.Yaml
