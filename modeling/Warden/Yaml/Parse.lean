import Warden.Yaml.Node
import Warden.Yaml.Scan
/-!
# Parsing YAML

The parser reads the scanner's tokens into nodes. The grammar:

```
stream     ::= STREAM-START document* STREAM-END
document   ::= directive* DOCUMENT-START node? DOCUMENT-END?
             | node DOCUMENT-END?                       (the first only)
node       ::= ALIAS | properties content? | content
properties ::= ANCHOR TAG? | TAG ANCHOR?
content    ::= SCALAR | block_collection | flow_collection
block_seq  ::= BLOCK-SEQUENCE-START (BLOCK-ENTRY node?)* BLOCK-END
indentless ::= (BLOCK-ENTRY node?)+                     (a mapping's value)
block_map  ::= BLOCK-MAPPING-START (KEY node? (VALUE node?)?)* BLOCK-END
flow_seq   ::= [ (entry (, entry)* ,?)? ]
             where entry ::= node | KEY node? (VALUE node?)?
flow_map   ::= { (entry (, entry)* ,?)? }
             where entry ::= KEY node? (VALUE node?)? | node
```

A node left out reads as the empty value, as does a node with properties
but no content. A tag must use a handle that the document's directives or
the defaults (`!` and `!!`) define. In a flow sequence a pair with no key
passes over the token after its `?`.

An anchor is given a number when its node starts, and an alias refers to
that number. The number counts the different anchor names before it, so a
name defined again keeps a number that a later new name takes as well; an
alias to such a number is the node of that number that starts last.

Parsing is bounded by the number of tokens, so it always ends.
-/

namespace Warden.Yaml

/-- The parser's state: the tokens and how many are read, the anchor names
    of the document with their numbers, the anchored nodes built so far and
    how many have started, and the tag handles the document defines. -/
structure Parser where
  tokens : Array Token
  pos : Nat
  names : List (String × Nat)
  anchored : List Anchored
  starts : Nat
  handles : List String

/-- Parsing, which stops at the first error. -/
abbrev ParseM := StateT Parser (Except String)

namespace Parser

/-- The next token. -/
def peek : ParseM Token := do
  let s ← get
  return s.tokens[s.pos]?.getD .streamEnd

/-- Moves past the next token. -/
def advance : ParseM Unit := modify fun s => { s with pos := s.pos + 1 }

/-- Gives an anchor name its number as its node starts; gives the number
    and the place of the start. -/
def startAnchor (name : String) : ParseM (Nat × Nat) := do
  let s ← get
  let number := s.names.length
  set { s with names := (name, number) :: s.names.filter (·.1 != name), starts := s.starts + 1 }
  return (number, s.starts)

/-- Records a finished anchored node. -/
def finishAnchor (node : Node) : Option (Nat × Nat) → ParseM Unit
  | some (number, start) => modify fun s => { s with anchored := ⟨number, start, node⟩ :: s.anchored }
  | none => pure ()

/-- A node's anchor and tag, in either order, each at most once. -/
def properties : ParseM (Option String × Option (String × String)) := do
  match ← peek with
  | .anchor a =>
    advance
    match ← peek with
    | .tag h t => advance; return (some a, some (h, t))
    | _ => return (some a, none)
  | .tag h t =>
    advance
    match ← peek with
    | .anchor a => advance; return (some a, some (h, t))
    | _ => return (none, some (h, t))
  | _ => return (none, none)

/-- Whether a token may not start a node in a block collection. -/
def endsBlockEntry : Token → Bool
  | .blockEntry | .blockEnd => true
  | _ => false

/-- Whether a token may not start a node in a block mapping or in a
    sequence written at its key's column. -/
def endsBlockPart : Token → Bool
  | .key | .value | .blockEntry | .blockEnd => true
  | _ => false

/-- Whether a token may not start a node in a block mapping. -/
def endsMapPart : Token → Bool
  | .key | .value | .blockEnd => true
  | _ => false

/-- Whether a token may not start a node in a flow collection's entry. -/
def endsFlowPart (close : Token) (t : Token) : Bool :=
  t == .value || t == .flowEntry || t == close

mutual

/-- A node. In a block, block collections may start it; as a mapping's key
    or value (`indentless`) so may a sequence at the mapping's column. -/
def node : Nat → Bool → Bool → ParseM Node
  | 0, _, _ => throw "the document is nested too deeply"
  | fuel + 1, block, indentless => do
    if let .alias name := ← peek then
      advance
      match (← get).names.lookup name with
      | some k => return .alias k
      | none => throw "unknown anchor"
    let (anchor, tag) ← properties
    if let some (handle, _) := tag then
      if handle != "" && !(← get).handles.contains handle then throw "found undefined tag handle"
    let started ← anchor.mapM startAnchor
    let empty : ParseM Node :=
      if anchor.isSome || tag.isSome then pure Node.empty
      else throw "did not find expected node content"
    let n ← match ← peek with
      | .blockEntry => if indentless then indentlessSeq fuel [] else empty
      | .scalar t style => do advance; pure (.scalar t (style == .plain))
      | .flowSequenceStart => do advance; flowSeq fuel true []
      | .flowMappingStart => do advance; flowMap fuel true []
      | .blockSequenceStart => if block then do advance; blockSeq fuel [] else empty
      | .blockMappingStart => if block then do advance; blockMap fuel [] else empty
      | _ => empty
    finishAnchor n started
    return n

/-- The entries of a block sequence after its start. -/
def blockSeq : Nat → List Node → ParseM Node
  | 0, _ => throw "the document is nested too deeply"
  | fuel + 1, acc => do
    match ← peek with
    | .blockEntry =>
      advance
      let item ← if endsBlockEntry (← peek) then pure Node.empty else node fuel true false
      blockSeq fuel (item :: acc)
    | .blockEnd => advance; return .seq acc.reverse
    | _ => throw "did not find expected '-' indicator"

/-- The entries of a sequence written at its key's column. -/
def indentlessSeq : Nat → List Node → ParseM Node
  | 0, _ => throw "the document is nested too deeply"
  | fuel + 1, acc => do
    match ← peek with
    | .blockEntry =>
      advance
      let item ← if endsBlockPart (← peek) then pure Node.empty else node fuel true false
      indentlessSeq fuel (item :: acc)
    | _ => return .seq acc.reverse

/-- The entries of a block mapping after its start. -/
def blockMap : Nat → List (Node × Node) → ParseM Node
  | 0, _ => throw "the document is nested too deeply"
  | fuel + 1, acc => do
    match ← peek with
    | .key =>
      advance
      let k ← if endsMapPart (← peek) then pure Node.empty else node fuel true true
      let v ← if (← peek) == .value then do
          advance
          if endsMapPart (← peek) then pure Node.empty else node fuel true true
        else pure Node.empty
      blockMap fuel ((k, v) :: acc)
    | .blockEnd => advance; return .map acc.reverse
    | _ => throw "did not find expected key"

/-- The entries of a flow sequence after its `[`; an entry `? k : v` or
    `k: v` is a mapping of one pair. -/
def flowSeq : Nat → Bool → List Node → ParseM Node
  | 0, _, _ => throw "the document is nested too deeply"
  | fuel + 1, first, acc => do
    if (← peek) != .flowSequenceEnd then
      if !first then
        if (← peek) == .flowEntry then advance
        else throw "did not find expected ',' or ']'"
      match ← peek with
      | .key =>
        advance
        let k ← if endsFlowPart .flowSequenceEnd (← peek) then do advance; pure Node.empty
          else node fuel false false
        let v ← if (← peek) == .value then do
            advance
            let t ← peek
            if t == .flowEntry || t == .flowSequenceEnd then pure Node.empty
            else node fuel false false
          else pure Node.empty
        return ← flowSeq fuel false (.map [(k, v)] :: acc)
      | .flowSequenceEnd => pure ()
      | _ =>
        let item ← node fuel false false
        return ← flowSeq fuel false (item :: acc)
    advance
    return .seq acc.reverse

/-- The entries of a flow mapping after its `{`; an entry with no `:` has
    the empty value. -/
def flowMap : Nat → Bool → List (Node × Node) → ParseM Node
  | 0, _, _ => throw "the document is nested too deeply"
  | fuel + 1, first, acc => do
    if (← peek) != .flowMappingEnd then
      if !first then
        if (← peek) == .flowEntry then advance
        else throw "did not find expected ',' or '\x7d'"
      match ← peek with
      | .key =>
        advance
        let k ← if endsFlowPart .flowMappingEnd (← peek) then pure Node.empty
          else node fuel false false
        let v ← if (← peek) == .value then do
            advance
            let t ← peek
            if t == .flowEntry || t == .flowMappingEnd then pure Node.empty
            else node fuel false false
          else pure Node.empty
        return ← flowMap fuel false ((k, v) :: acc)
      | .flowMappingEnd => pure ()
      | _ =>
        let k ← node fuel false false
        return ← flowMap fuel false ((k, Node.empty) :: acc)
    advance
    return .map acc.reverse

end

/-- A document's directives: at most one `%YAML`, of version 1.1 or 1.2,
    and `%TAG` handles defined once each. Gives the handles defined, with
    the two defaults. -/
def directives : Nat → Bool → List String → ParseM (List String)
  | 0, _, hs => pure hs
  | fuel + 1, version, hs => do
    match ← peek with
    | .versionDirective major minor =>
      if version then throw "found duplicate %YAML directive"
      if major != 1 || (minor != 1 && minor != 2) then throw "found incompatible YAML document"
      advance
      directives fuel true hs
    | .tagDirective h _ =>
      if hs.contains h then throw "found duplicate %TAG directive"
      advance
      directives fuel version (h :: hs)
    | _ =>
      let hs := if hs.contains "!" then hs else hs ++ ["!"]
      return if hs.contains "!!" then hs else hs ++ ["!!"]

/-- Starts a document: no anchors yet, and the given tag handles. -/
def startDocument (handles : List String) : ParseM Unit :=
  modify fun s => { s with names := [], anchored := [], starts := 0, handles }

/-- Moves past `...` markers. -/
def skipDocumentEnds : Nat → ParseM Unit
  | 0 => pure ()
  | fuel + 1 => do
    if (← peek) == .documentEnd then
      advance
      skipDocumentEnds fuel

/-- The documents of the stream, each with its anchored nodes. The first
    document may leave out `---` when it has no directives; a later one must
    start with it. -/
def documents : Nat → Bool → List Tree → ParseM (List Tree)
  | 0, _, acc => pure acc.reverse
  | fuel + 1, first, acc => do
    if !first then skipDocumentEnds fuel
    let t ← peek
    if t == .streamEnd then
      advance
      return acc.reverse
    let explicit := match t with
      | .versionDirective .. | .tagDirective .. | .documentStart => true
      | _ => false
    let root ← if first && !explicit then do
        startDocument (← directives fuel false [])
        node fuel true false
      else do
        startDocument (← directives fuel false [])
        unless (← peek) == .documentStart do throw "did not find expected <document start>"
        advance
        match ← peek with
        | .versionDirective .. | .tagDirective .. | .documentStart | .documentEnd | .streamEnd =>
          pure Node.empty
        | _ => node fuel true false
    if (← peek) == .documentEnd then advance
    documents fuel false (⟨root, (← get).anchored⟩ :: acc)

end Parser

/-- The document of a YAML text: `none` when the text holds no document.
    A text with more than one document is refused, as is any error of
    scanning or parsing anywhere in the text. -/
def read (text : String) : Except String (Option Tree) := do
  let tokens ← scan text
  let fuel := tokens.size + 2
  let start : Parser := { tokens, pos := 1, names := [], anchored := [], starts := 0, handles := [] }
  let (docs, _) ← (Parser.documents fuel true []).run start
  match docs with
  | [] => return none
  | [d] => return some d
  | _ => throw "more than one document"

end Warden.Yaml
