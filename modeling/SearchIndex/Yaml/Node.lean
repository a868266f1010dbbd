import SearchIndex.Yaml.Token

/-!
Contract: the tree that the tokens of a YAML document describe.

A scalar keeps its text, its style and its tag; what kind of value it is, is for the reader of the
tree to decide. An alias keeps the number of a named node, and a document keeps the named nodes
beside its tree, so an alias may stand for a node that is around it. A text holds at most one
document; an empty text is a plain scalar without characters.
-/

namespace SearchIndex.Yaml

inductive Node where
  | scalar (text : String) (style : ScalarStyle) (tag : Option Tag)
  | sequence (items : List Node) (tag : Option Tag)
  | mapping (entries : List (Node × Node)) (tag : Option Tag)
  | alias (number : Nat)
deriving Repr, Inhabited

/-- Nodes with their numbers, in the order in which they begin. -/
abbrev NamedNodes := Array (Nat × Node)

/-- A document: its tree, and the nodes that aliases stand for. -/
structure Document where
  root : Node
  named : NamedNodes

namespace Node

/-- The node where nothing is written. -/
def absent : Node := .scalar "" .plain none

/-- The names of a document so far. A name's number is how many names there are when it is given,
so nodes share a number only after a name has been given twice. -/
structure Names where
  numbers : List (String × Nat)
  nodes : NamedNodes

namespace Names

def empty : Names := ⟨[], #[]⟩

/-- Gives a name to the node that begins here. -/
def enter (names : Names) (name : String) : Names :=
  let number := names.numbers.length
  ⟨(name, number) :: names.numbers.filter fun entry => entry.1 != name,
    names.nodes.push (number, absent)⟩

def complete (names : Names) (place : Nat) (node : Node) : Names :=
  { names with nodes := names.nodes.modify place fun entry => (entry.1, node) }

end Names

/-- A node with the tokens after it and the names so far. -/
structure Composed (α : Type) where
  value : α
  rest : List PlacedToken
  names : Names

/-- The next token; the last one stands for all after it. -/
def peek (tokens : List PlacedToken) : PlacedToken :=
  tokens.headD (.streamEnd, .start)

/-- The properties before a node: its anchor, and what its tag says. -/
structure Properties where
  anchor : Option String
  tag : Option Tag
  any : Bool
  rest : List PlacedToken

/-- Reads at most one anchor and one tag. -/
def properties (handles : Handles) (tokens : List PlacedToken) : Except Fault Properties :=
  let tagOf (tag : WrittenTag) (mark : Mark) : Except Fault (Option Tag) :=
    match tag.octets? handles with
    | some octets => .ok (Tag.ofOctets? octets)
    | none => failIn "while parsing a node" (peek tokens).2 "found undefined tag handle" mark
  match tokens with
  | (.anchor name, _) :: (.tag tag, mark) :: rest => do
    .ok ⟨some name, ← tagOf tag mark, true, rest⟩
  | (.tag tag, mark) :: (.anchor name, _) :: rest => do
    .ok ⟨some name, ← tagOf tag mark, true, rest⟩
  | (.anchor name, _) :: rest => .ok ⟨some name, none, true, rest⟩
  | (.tag tag, mark) :: rest => do .ok ⟨none, ← tagOf tag mark, true, rest⟩
  | rest => .ok ⟨none, none, false, rest⟩

/-- Between brackets, skips the comma that must stand before every part but the first. -/
def afterComma (closing : Token) (first : Bool) (began : Mark) (context problem : String)
    (tokens : List PlacedToken) : Except Fault (List PlacedToken) :=
  let next := peek tokens
  if first || next.1 == closing then .ok tokens
  else if next.1 == .flowEntry then .ok (tokens.drop 1)
  else failIn context began problem next.2

mutual

/-- One node. `inBlock` tells whether it may be a block collection, and `indentless` whether a
sequence may stand at the column of the mapping around it. A bare tag says nothing of a scalar
that is written out. -/
def node (handles : Handles) (inBlock indentless : Bool) :
    (fuel : Nat) → Names → List PlacedToken → Except Fault (Composed Node)
  | 0, _, tokens => failAt "recursion limit exceeded" (peek tokens).2
  | fuel + 1, names, tokens =>
    match tokens with
    | (.alias name, mark) :: rest =>
      match names.numbers.lookup name with
      | some number => .ok ⟨.alias number, rest, names⟩
      | none => failAt "unknown anchor" mark
    | tokens => do
      let began := (peek tokens).2
      let marks ← properties handles tokens
      let place := names.nodes.size
      let names := match marks.anchor with
        | some name => names.enter name
        | none => names
      let (token, mark) := peek marks.rest
      let rest := marks.rest.drop 1
      let sequence (composed : Composed (List Node)) : Composed Node :=
        ⟨.sequence composed.value marks.tag, composed.rest, composed.names⟩
      let mapping (composed : Composed (List (Node × Node))) : Composed Node :=
        ⟨.mapping composed.value marks.tag, composed.rest, composed.names⟩
      let composed ← match token with
        | .scalar text style =>
          .ok ⟨.scalar text style (marks.tag.filter fun tag => tag != .bare), rest, names⟩
        | .flowSequence => (flowItems handles fuel mark true names rest).map sequence
        | .flowMapping => (flowEntries handles fuel mark true names rest).map mapping
        | token =>
          if indentless && token == .blockEntry then
            (items handles false fuel mark names marks.rest).map sequence
          else if inBlock && token == .blockSequence then
            (items handles true fuel mark names rest).map sequence
          else if inBlock && token == .blockMapping then
            (entries handles fuel mark names rest).map mapping
          else if marks.any then .ok ⟨.scalar "" .plain marks.tag, marks.rest, names⟩
          else
            failIn
              (if inBlock then "while parsing a block node" else "while parsing a flow node")
              began "did not find expected node content" mark
      match marks.anchor with
      | some _ =>
        .ok { composed with names := composed.names.complete place composed.value }
      | none => .ok composed

/-- The items of a block sequence. One with an indentation of its own ends with a token. -/
def items (handles : Handles) (closed : Bool) : (fuel : Nat) → Mark → Names → List PlacedToken →
    Except Fault (Composed (List Node))
  | 0, _, _, tokens => failAt "recursion limit exceeded" (peek tokens).2
  | fuel + 1, began, names, tokens =>
    match tokens with
    | (.blockEntry, _) :: rest => do
      let next := (peek rest).1
      let empty := next == .blockEntry || next == .blockEnd ||
        (!closed && (next == .key || next == .value))
      let first ←
        if empty then .ok ⟨absent, rest, names⟩ else node handles true false fuel names rest
      let more ← items handles closed fuel began first.names first.rest
      .ok { more with value := first.value :: more.value }
    | tokens =>
      if !closed then .ok ⟨[], tokens, names⟩
      else if (peek tokens).1 == .blockEnd then .ok ⟨[], tokens.drop 1, names⟩
      else
        failIn "while parsing a block collection" began "did not find expected '-' indicator"
          (peek tokens).2

/-- The entries of a block mapping. -/
def entries (handles : Handles) : (fuel : Nat) → Mark → Names → List PlacedToken →
    Except Fault (Composed (List (Node × Node)))
  | 0, _, _, tokens => failAt "recursion limit exceeded" (peek tokens).2
  | fuel + 1, began, names, tokens =>
    match tokens with
    | (.key, _) :: rest => do
      let ends (token : Token) : Bool :=
        token == .key || token == .value || token == .blockEnd
      let key ←
        if ends (peek rest).1 then .ok ⟨absent, rest, names⟩
        else node handles true true fuel names rest
      let content ← match key.rest with
        | (.value, _) :: rest =>
          if ends (peek rest).1 then .ok ⟨absent, rest, key.names⟩
          else node handles true true fuel key.names rest
        | rest => .ok ⟨absent, rest, key.names⟩
      let more ← entries handles fuel began content.names content.rest
      .ok { more with value := (key.value, content.value) :: more.value }
    | (.blockEnd, _) :: rest => .ok ⟨[], rest, names⟩
    | tokens =>
      failIn "while parsing a block mapping" began "did not find expected key" (peek tokens).2

/-- The items between square brackets; `first` tells whether none has been read yet. An item with
a key is a mapping with one entry. After a question mark without a key the next token is lost. -/
def flowItems (handles : Handles) : (fuel : Nat) → Mark → (first : Bool) → Names →
    List PlacedToken → Except Fault (Composed (List Node))
  | 0, _, _, _, tokens => failAt "recursion limit exceeded" (peek tokens).2
  | fuel + 1, began, first, names, tokens => do
    let tokens ←
      afterComma .flowSequenceEnd first began "while parsing a flow sequence"
        "did not find expected ',' or ']'" tokens
    match tokens with
    | (.flowSequenceEnd, _) :: rest => .ok ⟨[], rest, names⟩
    | (.key, _) :: rest => do
      let ends (token : Token) : Bool :=
        token == .value || token == .flowEntry || token == .flowSequenceEnd
      let key ←
        if ends (peek rest).1 then .ok ⟨absent, rest.drop 1, names⟩
        else node handles false false fuel names rest
      let content ← match key.rest with
        | (.value, _) :: rest =>
          if (peek rest).1 == .flowEntry || (peek rest).1 == .flowSequenceEnd then
            .ok ⟨absent, rest, key.names⟩
          else node handles false false fuel key.names rest
        | rest => .ok ⟨absent, rest, key.names⟩
      let more ← flowItems handles fuel began false content.names content.rest
      .ok { more with value := .mapping [(key.value, content.value)] none :: more.value }
    | tokens => do
      let item ← node handles false false fuel names tokens
      let more ← flowItems handles fuel began false item.names item.rest
      .ok { more with value := item.value :: more.value }

/-- The entries between curly brackets; `first` tells whether none has been read yet. -/
def flowEntries (handles : Handles) : (fuel : Nat) → Mark → (first : Bool) → Names →
    List PlacedToken → Except Fault (Composed (List (Node × Node)))
  | 0, _, _, _, tokens => failAt "recursion limit exceeded" (peek tokens).2
  | fuel + 1, began, first, names, tokens => do
    let tokens ←
      afterComma .flowMappingEnd first began "while parsing a flow mapping"
        "did not find expected ',' or '\x7d'" tokens
    let ends (token : Token) : Bool := token == .flowEntry || token == .flowMappingEnd
    match tokens with
    | (.flowMappingEnd, _) :: rest => .ok ⟨[], rest, names⟩
    | (.key, _) :: rest => do
      let key ←
        if ends (peek rest).1 || (peek rest).1 == .value then .ok ⟨absent, rest, names⟩
        else node handles false false fuel names rest
      let content ← match key.rest with
        | (.value, _) :: rest =>
          if ends (peek rest).1 then .ok ⟨absent, rest, key.names⟩
          else node handles false false fuel key.names rest
        | rest => .ok ⟨absent, rest, key.names⟩
      let more ← flowEntries handles fuel began false content.names content.rest
      .ok { more with value := (key.value, content.value) :: more.value }
    | tokens => do
      let key ← node handles false false fuel names tokens
      let more ← flowEntries handles fuel began false key.names key.rest
      .ok { more with value := (key.value, absent) :: more.value }

end

end Node

namespace Document

open Node

def takeDirectives : List PlacedToken → List (Directive × Mark) × List PlacedToken
  | (.directive directive, mark) :: rest =>
    let (directives, rest) := takeDirectives rest
    ((directive, mark) :: directives, rest)
  | tokens => ([], tokens)

/-- The tree of a document after its marker. -/
def body (handles : Handles) (fuel : Nat) (tokens : List PlacedToken) :
    Except Fault (Composed Node) :=
  match (peek tokens).1 with
  | .streamEnd | .documentStart | .documentEnd | .directive _ => .ok ⟨absent, tokens, .empty⟩
  | _ => node handles true false fuel .empty tokens

/-- The one document that tokens describe; an empty one if there is none. Directives must be
followed by a marker. -/
def ofTokens (tokens : List PlacedToken) : Except Fault Document := do
  let fuel := 3 * tokens.length + 3
  let (directives, tokens) := takeDirectives tokens
  let handles ← Directive.handlesOf false [] directives
  let first ← match tokens with
    | (.documentStart, _) :: rest => body handles fuel rest
    | tokens =>
      if !directives.isEmpty then
        failAt "did not find expected <document start>" (peek tokens).2
      else if (peek tokens).1 == .streamEnd then .ok ⟨absent, tokens, .empty⟩
      else node handles true false fuel .empty tokens
  let more := first.rest.dropWhile fun token => token.1 == .documentEnd
  match peek more with
  | (.streamEnd, _) => .ok ⟨first.value, first.names.nodes⟩
  | (.documentStart, _) | (.directive _, _) =>
    .error ⟨"deserializing from YAML containing more than one document is not supported",
      none, none⟩
  | (_, mark) => failAt "did not find expected <document start>" mark

def parse (text : String) : Except Fault Document :=
  (tokensOf text).bind ofTokens

end Document

end SearchIndex.Yaml
