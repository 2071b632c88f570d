import Provision.Yaml.Token

/-!
# YAML documents

A document is a tree of scalars, sequences and mappings in which an alias stands for a node that
carries an anchor. `Document.ofText` reads the one document of a text: a text without any content
is the empty document, and a text with two documents is refused, as is one that breaks the grammar
anywhere.

The grammar is read by recursive descent over the tokens. Every function is bounded by the number
of tokens that are left, because each step consumes one of them or descends into a smaller form.
-/

namespace Provision.Yaml

/-- What a node carries besides its content: its tag, in full, and the number of its anchor. -/
structure Mark where
  tag : Option String
  anchor : Option Nat
  deriving Repr, BEq, Inhabited

/-- A node. The entries of a mapping keep their order and may repeat a key. -/
inductive Node where
  | scalar (mark : Mark) (style : Style) (text : String)
  | sequence (mark : Mark) (items : List Node)
  | mapping (mark : Mark) (entries : List (Node × Node))
  | reference (anchor : Nat)
  deriving Inhabited

namespace Node

/-- An empty plain scalar, which stands where a value was left out. -/
def missing (mark : Mark) : Node := scalar mark .plain ""

mutual

/-- The number of events that report a node: one for a scalar or an alias, and two more than its
content for a collection. -/
def events : Node → Nat
  | scalar .. => 1
  | reference _ => 1
  | sequence _ items => 2 + itemEvents items
  | mapping _ entries => 2 + entryEvents entries

/-- The number of events that report the items of a sequence. -/
def itemEvents : List Node → Nat
  | [] => 0
  | n :: ns => n.events + itemEvents ns

/-- The number of events that report the entries of a mapping. -/
def entryEvents : List (Node × Node) → Nat
  | [] => 0
  | (k, v) :: es => k.events + v.events + entryEvents es

end

mutual

/-- The nodes of a tree that carry an anchor, outer ones first, each with its number. -/
def anchored (n : Node) : List (Nat × Node) :=
  match n with
  | scalar mark .. => own mark n
  | reference _ => []
  | sequence mark items => own mark n ++ itemsAnchored items
  | mapping mark entries => own mark n ++ entriesAnchored entries
where
  own (mark : Mark) (n : Node) : List (Nat × Node) := (mark.anchor.map (·, n)).toList

/-- The anchored nodes among the items of a sequence. -/
def itemsAnchored : List Node → List (Nat × Node)
  | [] => []
  | n :: ns => n.anchored ++ itemsAnchored ns

/-- The anchored nodes among the entries of a mapping. -/
def entriesAnchored : List (Node × Node) → List (Nat × Node)
  | [] => []
  | (k, v) :: es => k.anchored ++ v.anchored ++ entriesAnchored es

end

end Node

/-- A document: its root, absent when the text has no content, and the nodes behind its aliases.
A number that two nodes carry belongs to the later one. -/
structure Document where
  root : Option Node
  anchors : List (Nat × Node)

namespace Document

/-- The node an alias stands for. -/
def target? (d : Document) (anchor : Nat) : Option Node :=
  (d.anchors.reverse.find? (fun a => a.1 = anchor)).map (·.2)

/-- The number of events that report the content of the document. -/
def events (d : Document) : Nat := (d.root.map Node.events).getD 1

end Document

/-! ## The grammar -/

/-- The state of reading nodes: the tokens left, the tag handles that were declared, and the
anchors so far with their numbers. An anchor's number is the number of different names before it,
its own included when it has been used already. -/
structure Reading where
  tokens : List Token
  handles : List (String × String)
  names : List (String × Nat)

/-- A step of reading nodes. -/
abbrev Parse := StateT Reading (Except Problem)

namespace Parse

/-- The next token. -/
def peek : Parse (Option Token) := return (← get).tokens.head?

/-- Goes past the next token. -/
def skip : Parse Unit := modify fun s => { s with tokens := s.tokens.drop 1 }

/-- Numbers a new anchor. -/
def declare (name : String) : Parse Nat := do
  let s ← get
  let number := s.names.length
  set { s with names := (name, number) :: s.names.filter (fun n => n.1 != name) }
  return number

/-- The number of a known anchor. -/
def refer (name : String) : Parse Nat := do
  match (← get).names.find? (fun n => n.1 = name) with
  | some (_, number) => return number
  | none => throw "an alias has no anchor"

/-- The full form of a tag. -/
def resolve (handle suffix : String) : Parse String := do
  if handle.isEmpty then return suffix
  match (← get).handles.find? (fun h => h.1 = handle) with
  | some (_, stem) => return stem ++ suffix
  | none => throw "a tag handle was not declared"

/-- The anchor and the tag in front of a node, in either order, each at most once. -/
def properties : Parse (Option String × Option String) := do
  match ← peek with
  | some (.anchor name) =>
    skip
    match ← peek with
    | some (.tag handle suffix) => skip; return (some name, some (← resolve handle suffix))
    | _ => return (some name, none)
  | some (.tag handle suffix) =>
    skip
    match ← peek with
    | some (.anchor name) => skip; return (some name, some (← resolve handle suffix))
    | _ => return (none, some (← resolve handle suffix))
  | _ => return (none, none)

/-- Whether a token ends the value of an entry in a block mapping. -/
def endsBlockValue : Option Token → Bool
  | some .key | some .value | some .blockEnd => true
  | _ => false

/-- Whether a token ends the value of an entry in a flow sequence. -/
def endsFlowValue : Option Token → Bool
  | some .flowEntry | some .flowSequenceEnd => true
  | _ => false

/-- Whether a token ends the value of an entry in a flow mapping. -/
def endsMappingValue : Option Token → Bool
  | some .flowEntry | some .flowMappingEnd => true
  | _ => false

mutual

/-- A node. `block` tells whether block collections may begin here, and `indentless` whether a
sequence may that is not indented below its key. -/
def node (bound : Nat) (block indentless : Bool) : Parse Node :=
  match bound with
  | 0 => throw "the text does not end"
  | n + 1 => do
    if let some (.reference name) ← peek then
      let number ← refer name
      skip
      return .reference number
    let (anchor, tag) ← properties
    let number ← anchor.mapM declare
    let mark : Mark := ⟨tag, number⟩
    match ← peek with
    | some .blockEntry =>
      if indentless then return .sequence mark (← indentlessItems n [])
      else bare anchor tag mark
    | some (.scalar style text) =>
      skip
      -- A lone exclamation mark says no more about a scalar than no tag does.
      return .scalar { mark with tag := mark.tag.filter (· != "!") } style text
    | some .flowSequenceStart => skip; return .sequence mark (← flowItems n true [])
    | some .flowMappingStart => skip; return .mapping mark (← flowEntries n true [])
    | some .blockSequenceStart =>
      if block then skip; return .sequence mark (← blockItems n [])
      else bare anchor tag mark
    | some .blockMappingStart =>
      if block then skip; return .mapping mark (← blockEntries n [])
      else bare anchor tag mark
    | _ => bare anchor tag mark
where
  /-- A node without content is one only if it carries an anchor or a tag. -/
  bare (anchor tag : Option String) (mark : Mark) : Parse Node :=
    if anchor.isSome || tag.isSome then return .missing mark
    else throw "a node lacks its content"

/-- The items of a block sequence. -/
def blockItems (bound : Nat) (read : List Node) : Parse (List Node) :=
  match bound with
  | 0 => throw "the text does not end"
  | n + 1 => do
    match ← peek with
    | some .blockEntry =>
      skip
      match ← peek with
      | some .blockEntry | some .blockEnd => blockItems n (.missing default :: read)
      | _ => do
        let item ← node n true false
        blockItems n (item :: read)
    | some .blockEnd => skip; return read.reverse
    | _ => throw "a sequence lacks a hyphen"

/-- The items of a sequence that is not indented below its key. -/
def indentlessItems (bound : Nat) (read : List Node) : Parse (List Node) :=
  match bound with
  | 0 => throw "the text does not end"
  | n + 1 => do
    match ← peek with
    | some .blockEntry =>
      skip
      match ← peek with
      | some .blockEntry => indentlessItems n (.missing default :: read)
      | t =>
        if endsBlockValue t then indentlessItems n (.missing default :: read)
        else do
          let item ← node n true false
          indentlessItems n (item :: read)
    | _ => return read.reverse

/-- The entries of a block mapping. -/
def blockEntries (bound : Nat) (read : List (Node × Node)) : Parse (List (Node × Node)) :=
  match bound with
  | 0 => throw "the text does not end"
  | n + 1 => do
    match ← peek with
    | some .key =>
      skip
      let key ← if endsBlockValue (← peek) then pure (.missing default) else node n true true
      let value ← do
        match ← peek with
        | some .value =>
          skip
          if endsBlockValue (← peek) then pure (.missing default) else node n true true
        | _ => pure (.missing default)
      blockEntries n ((key, value) :: read)
    | some .blockEnd => skip; return read.reverse
    | _ => throw "a mapping lacks a key"

/-- The items of a flow sequence. An item that is marked as a key is a mapping of one entry. -/
def flowItems (bound : Nat) (first : Bool) (read : List Node) : Parse (List Node) :=
  match bound with
  | 0 => throw "the text does not end"
  | n + 1 => do
    if (← peek) == some .flowSequenceEnd then skip; return read.reverse
    if !first then
      if (← peek) == some .flowEntry then skip else throw "a sequence lacks a comma"
    match ← peek with
    | some .flowSequenceEnd => skip; return read.reverse
    | some .key =>
      skip
      let item ← pair n
      flowItems n false (item :: read)
    | _ => do
      let item ← node n false false
      flowItems n false (item :: read)

/-- The single entry of a mapping inside a flow sequence. When its key is left out, so is
the token after it. -/
def pair (bound : Nat) : Parse Node :=
  match bound with
  | 0 => throw "the text does not end"
  | n + 1 => do
    let t ← peek
    let key ←
      if t == some .value || endsFlowValue t then do skip; pure (Node.missing default)
      else node n false false
    let value ← do
      if (← peek) == some .value then
        skip
        if endsFlowValue (← peek) then pure (.missing default) else node n false false
      else pure (.missing default)
    return .mapping default [(key, value)]

/-- The entries of a flow mapping. -/
def flowEntries (bound : Nat) (first : Bool) (read : List (Node × Node)) :
    Parse (List (Node × Node)) :=
  match bound with
  | 0 => throw "the text does not end"
  | n + 1 => do
    if (← peek) == some .flowMappingEnd then skip; return read.reverse
    if !first then
      if (← peek) == some .flowEntry then skip else throw "a mapping lacks a comma"
    match ← peek with
    | some .flowMappingEnd => skip; return read.reverse
    | some .key =>
      skip
      let t ← peek
      let key ←
        if t == some .value || endsMappingValue t then pure (Node.missing default)
        else node n false false
      let value ← do
        if (← peek) == some .value then
          skip
          if endsMappingValue (← peek) then pure (.missing default) else node n false false
        else pure (.missing default)
      flowEntries n false ((key, value) :: read)
    | _ => do
      let key ← node n false false
      flowEntries n false ((key, .missing default) :: read)

end

/-- The directives in front of a document: at most one version, which has to be 1.1 or 1.2, and
tag handles that differ from each other. -/
def directives (bound : Nat) (versioned : Bool) : Parse Unit :=
  match bound with
  | 0 => return ()
  | n + 1 => do
    match ← peek with
    | some (.versionLine major minor) =>
      if versioned then throw "a version is given twice"
      if major != 1 || (minor != 1 && minor != 2) then throw "an unknown version"
      skip
      directives n true
    | some (.tagLine handle stem) =>
      if (← get).handles.any (fun h => h.1 == handle) then throw "a tag handle is declared twice"
      modify fun s => { s with handles := (handle, stem) :: s.handles }
      skip
      directives n versioned
    | _ => return ()

/-- The handles that need no declaration. -/
def standardHandles : List (String × String) := [("!", "!"), ("!!", "tag:yaml.org,2002:")]

/-- The content of a document after its start marker. -/
def content (bound : Nat) : Parse Node := do
  match ← peek with
  | some (.versionLine ..) | some (.tagLine ..) | some .documentStart | some .documentEnd
  | some .streamEnd => return .missing default
  | _ => node bound true false

/-- The one document of a text. -/
def document (bound : Nat) : Parse (Option Node) := do
  let root ← do
    match ← peek with
    | some .streamEnd => pure none
    | some (.versionLine ..) | some (.tagLine ..) | some .documentStart =>
      directives bound false
      if (← peek) != some .documentStart then throw "a document lacks its start marker"
      skip
      modify fun s =>
        { s with handles := s.handles ++
            standardHandles.filter fun h => !s.handles.any (fun g => g.1 == h.1) }
      some <$> content bound
    | _ =>
      modify fun s => { s with handles := standardHandles }
      some <$> node bound true false
  modify fun s => { s with tokens := s.tokens.dropWhile (· == .documentEnd) }
  if (← peek) != some .streamEnd then throw "the text goes on after its document"
  return root

end Parse

/-- The document of a text. -/
def Document.ofText (text : String) : Except Problem Document := do
  let tokens ← Token.ofText text
  let (root, _) ← (Parse.document (4 * tokens.length + 4)).run ⟨tokens, [], []⟩
  return ⟨root, (root.map Node.anchored).getD []⟩

end Provision.Yaml
