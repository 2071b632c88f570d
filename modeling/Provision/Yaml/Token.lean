import Provision.Yaml.Scalar

/-!
# Tokens of a YAML text

The tokens are the indicators, scalars, anchors and tags of a text, together with marks for the
start and the end of every indented collection. A mapping key in one line is recognised only by
the colon after it; the mark for the key is then put in front of the tokens it consists of. For
this each place where such a key may begin is remembered, one for each level of flow collections,
until the line ends or 1024 characters have passed.

`Token.ofText` is the one entry point. Its loops are bounded by the length of the text.
-/

namespace Provision.Yaml

/-- A token. -/
inductive Token where
  | streamEnd
  | versionLine (major minor : Nat)
  | tagLine (handle stem : String)
  | documentStart
  | documentEnd
  | blockSequenceStart
  | blockMappingStart
  | blockEnd
  | flowSequenceStart
  | flowSequenceEnd
  | flowMappingStart
  | flowMappingEnd
  | blockEntry
  | flowEntry
  | key
  | value
  | reference (name : String)
  | anchor (name : String)
  | tag (handle suffix : String)
  | scalar (style : Style) (text : String)
  deriving Repr, BEq

/-- A place where a key of one line may have begun: the number of the token that begins there. A
key is required where only a key can continue the mapping around it. -/
structure KeyStart where
  required : Bool
  token : Nat
  place : Place

/-- The state of reading tokens. `tokens` has the newest token first and `count` is their number;
`keys` has an entry for each flow level and one for the block level, the innermost first. -/
structure Scanner where
  cursor : Cursor
  tokens : List Token
  count : Nat
  indent : Int
  outerIndents : List Int
  keyAllowed : Bool
  keys : List (Option KeyStart)

/-- A step of reading tokens. -/
abbrev Scan := StateT Scanner (Except Problem)

namespace Scan

/-- Whether the cursor is inside a flow collection. -/
def inFlow : Scan Bool := return 1 < (← get).keys.length

/-- Adds a token. -/
def emit (t : Token) : Scan Unit :=
  modify fun s => { s with tokens := t :: s.tokens, count := s.count + 1 }

/-- Puts a token in front of the token with the given number. -/
def emitAt (number : Nat) (t : Token) : Scan Unit :=
  modify fun s =>
    let later := s.count - number
    { s with tokens := s.tokens.take later ++ t :: s.tokens.drop later, count := s.count + 1 }

/-- Goes on reading from a place. -/
def setCursor (c : Cursor) : Scan Unit := modify fun s => { s with cursor := c }

/-- Says whether a key may begin here. -/
def allowKey (allowed : Bool) : Scan Unit := modify fun s => { s with keyAllowed := allowed }

/-- Forgets a possible key of the innermost level. -/
def dropKey : Scan Unit := do
  match (← get).keys with
  | some k :: rest =>
    if k.required then throw "a mapping key lacks its colon"
    modify fun s => { s with keys := none :: rest }
  | _ => return ()

/-- Remembers that a key may begin at the cursor. -/
def noteKey : Scan Unit := do
  let s ← get
  if s.keyAllowed then
    dropKey
    let required := s.keys.length ≤ 1 && s.indent == s.cursor.place.column
    modify fun s => { s with keys := some ⟨required, s.count, s.cursor.place⟩ :: s.keys.drop 1 }

/-- Forgets the possible keys that are in an earlier line or too far back. -/
def dropStaleKeys : Scan Unit := do
  let here := (← get).cursor.place
  let fresh (k : Option KeyStart) : Except Problem (Option KeyStart) :=
    match k with
    | some k =>
      if k.place.line < here.line || k.place.index + 1024 < here.index then
        if k.required then .error "a mapping key lacks its colon" else .ok none
      else .ok (some k)
    | none => .ok none
  let keys ← ((← get).keys.mapM fresh : Except Problem _)
  modify fun s => { s with keys := keys }

/-- Opens a block collection at a column that is deeper than the indentation so far. Its mark
goes in front of the token with the given number, or to the end. -/
def indentTo (column : Nat) (number : Option Nat) (t : Token) : Scan Unit := do
  if !(← inFlow) && (← get).indent < column then
    modify fun s => { s with indent := column, outerIndents := s.indent :: s.outerIndents }
    match number with
    | some n => emitAt n t
    | none => emit t

/-- Closes the block collections that are deeper than a column. -/
def dedentTo (column : Int) : Scan Unit := do
  if !(← inFlow) then
    modify fun s =>
      let closed := (s.indent :: s.outerIndents).takeWhile (column < ·)
      let left := (s.indent :: s.outerIndents).drop closed.length
      { s with
        tokens := closed.map (fun _ => Token.blockEnd) ++ s.tokens
        count := s.count + closed.length
        indent := left.headD (-1)
        outerIndents := left.drop 1 }

/-- Skips blanks, comments and line breaks, and a byte order mark where a line starts. A line
break in block context allows a key; a tab may stand only where no key may begin. -/
def skipSpace (bound : Nat) : Scan Unit :=
  match bound with
  | 0 => return ()
  | n + 1 => do
    let s ← get
    let flow ← inFlow
    let c := s.cursor.skipByteOrderMark
    let c := c.skipWhile (fun x => x == ' ' || ((flow || !s.keyAllowed) && x == '\t'))
    let c := if c.rest.head? == some '#' then c.skipLine else c
    setCursor c
    if c.rest.head?.any isBreak then
      setCursor c.lineBreak.2
      if !flow then allowKey true
      skipSpace n

/-! ## Directives, anchors and tags -/

/-- Skips one or more characters that satisfy `p` and returns them. -/
def word (p : Char → Bool) : Scan (List Char) := do
  let c := (← get).cursor
  setCursor (c.skipWhile p)
  return c.rest.takeWhile p

/-- A number of at most nine digits in a version. -/
def versionNumber : Scan Nat := do
  let ds ← word Char.isDigit
  if ds.isEmpty then throw "a version lacks a number"
  if 9 < ds.length then throw "a version is too long"
  return Provision.Json.digitsValue ds

/-- The handle of a tag: an exclamation mark, or a word between two. -/
def tagHandle (directive : Bool) : Scan String := do
  let c := (← get).cursor
  if c.rest.head? != some '!' then throw "a tag lacks its exclamation mark"
  setCursor c.next
  let name ← word isWordChar
  let c := (← get).cursor
  if c.rest.head? == some '!' then
    setCursor c.next
    return String.ofList ('!' :: name ++ ['!'])
  else if directive && !name.isEmpty then throw "a tag handle lacks its exclamation mark"
  else return String.ofList ('!' :: name)

/-- Whether a character may stand in the address of a tag; the flow indicators may only in the
form in angle brackets and in a directive. -/
def isTagChar (wide : Bool) (c : Char) : Bool :=
  isWordChar c || ";/?:@&=+$.%!~*'()".toList.contains c || (wide && ",[]".toList.contains c)

/-- Bytes written with percent signs; they have to write whole characters. -/
def percentBytes (bound : Nat) (cs : List Char) : Option (List UInt8 × List Char) :=
  match bound, cs with
  | n + 1, '%' :: a :: b :: rest => do
    let x ← hexDigit? a
    let y ← hexDigit? b
    let (bytes, rest) ← percentBytes n rest
    return (UInt8.ofNat (x * 16 + y) :: bytes, rest)
  | _, '%' :: _ => none
  | _, rest => some ([], rest)
where
  hexDigit? := Provision.Json.hexDigit?

/-- The characters of a tag's address, with the bytes written by percent signs put together. -/
def tagAddressFrom (bound : Nat) (wide : Bool) (read : List Char) (c : Cursor) :
    Except Problem (List Char × Cursor) :=
  match bound with
  | 0 => .ok (read.reverse, c)
  | n + 1 =>
    match c.rest with
    | '%' :: _ =>
      match percentBytes (c.rest.length + 1) c.rest with
      | none => .error "a tag holds a broken escape"
      | some (bytes, rest) =>
        match String.fromUTF8? ⟨bytes.toArray⟩ with
        | none => .error "a tag holds a broken character"
        | some s =>
          tagAddressFrom n wide (s.toList.reverse ++ read)
            (c.forward (c.rest.length - rest.length))
    | x :: _ => if isTagChar wide x then tagAddressFrom n wide (x :: read) c.next
      else .ok (read.reverse, c)
    | [] => .ok (read.reverse, c)

/-- The address of a tag, which continues what has been read of its handle. -/
def tagAddress (wide : Bool) (handle : String) : Scan String := do
  let c := (← get).cursor
  let (cs, c') ← tagAddressFrom (c.rest.length + 1) wide [] c
  if cs.isEmpty && handle.isEmpty then throw "a tag lacks its address"
  setCursor c'
  return String.ofList (handle.toList.drop 1 ++ cs)

/-- The end of a directive: a comment and a line break at most. -/
def directiveEnd : Scan Unit := do
  let c := (← get).cursor.skipWhile isBlank
  let c := if c.rest.head? == some '#' then c.skipLine else c
  if !(c.rest.isEmpty || c.rest.head?.any isBreak) then throw "a directive goes on"
  setCursor c.lineBreak.2

/-- A directive. -/
def directive : Scan Unit := do
  dedentTo (-1)
  dropKey
  allowKey false
  setCursor (← get).cursor.next
  let name ← word isWordChar
  if name.isEmpty then throw "a directive lacks its name"
  if !atGap (← get).cursor.rest then throw "a directive has a strange name"
  let blanks : Scan Unit := do discard (word isBlank)
  if String.ofList name == "YAML" then
    blanks
    let major ← versionNumber
    let c := (← get).cursor
    if c.rest.head? != some '.' then throw "a version lacks its point"
    setCursor c.next
    emit (.versionLine major (← versionNumber))
  else if String.ofList name == "TAG" then
    blanks
    let handle ← tagHandle true
    if !(← get).cursor.rest.head?.any isBlank then throw "a tag handle goes on"
    blanks
    let stem ← tagAddress true ""
    if !atGap (← get).cursor.rest then throw "a tag address goes on"
    emit (.tagLine handle stem)
  else throw "an unknown directive"
  directiveEnd

/-- The name of an anchor or an alias. -/
def anchorName : Scan String := do
  setCursor (← get).cursor.next
  let name ← word isWordChar
  let rest := (← get).cursor.rest
  let ends := atGap rest || rest.head?.any ("?:,]\x7d%@`".toList.contains ·)
  if name.isEmpty || !ends then throw "an anchor has a strange name"
  return String.ofList name

/-- A tag: an address in angle brackets, or a handle and the rest of the address. -/
def tag : Scan Unit := do
  let c := (← get).cursor
  match c.rest with
  | '!' :: '<' :: _ =>
    setCursor (c.forward 2)
    let address ← tagAddress true ""
    let c := (← get).cursor
    if c.rest.head? != some '>' then throw "a tag lacks its bracket"
    setCursor c.next
    emit (.tag "" address)
  | _ =>
    let handle ← tagHandle false
    if 2 ≤ handle.length && handle.toList.getLast? == some '!' then
      let suffix ← tagAddress false ""
      emit (.tag handle suffix)
    else
      let suffix ← tagAddress false handle
      if suffix.isEmpty then emit (.tag "" "!") else emit (.tag "!" suffix)
  let rest := (← get).cursor.rest
  if !((← inFlow) && rest.head? == some ',') && !atGap rest then throw "a tag goes on"

/-! ## The next token -/

/-- An indicator of one character. -/
def indicator (t : Token) : Scan Unit := do
  setCursor (← get).cursor.next
  emit t

/-- The start or the end marker of a document. -/
def documentMarker (t : Token) : Scan Unit := do
  dedentTo (-1)
  dropKey
  allowKey false
  setCursor ((← get).cursor.forward 3)
  emit t

/-- The sign that opens a collection in brackets. -/
def flowStart (t : Token) : Scan Unit := do
  noteKey
  modify fun s => { s with keys := none :: s.keys }
  allowKey true
  indicator t

/-- The sign that closes a collection in brackets. -/
def flowEnd (t : Token) : Scan Unit := do
  dropKey
  modify fun s => { s with keys := if 1 < s.keys.length then s.keys.drop 1 else s.keys }
  allowKey false
  indicator t

/-- The hyphen of an item. -/
def blockEntry : Scan Unit := do
  if !(← inFlow) then
    if !(← get).keyAllowed then throw "a sequence entry stands in a strange place"
    indentTo (← get).cursor.place.column none .blockSequenceStart
  dropKey
  allowKey true
  indicator .blockEntry

/-- The question mark of a key. -/
def key : Scan Unit := do
  let flow ← inFlow
  if !flow then
    if !(← get).keyAllowed then throw "a mapping key stands in a strange place"
    indentTo (← get).cursor.place.column none .blockMappingStart
  dropKey
  allowKey (!flow)
  indicator .key

/-- A colon: the key before it is marked, or it follows a key that was marked by itself. -/
def value : Scan Unit := do
  let flow ← inFlow
  match (← get).keys with
  | some k :: rest =>
    emitAt k.token .key
    indentTo k.place.column (some k.token) .blockMappingStart
    modify fun s => { s with keys := none :: rest }
    allowKey false
  | _ =>
    if !flow then
      if !(← get).keyAllowed then throw "a mapping value stands in a strange place"
      indentTo (← get).cursor.place.column none .blockMappingStart
    allowKey (!flow)
  indicator .value

/-- A scalar that may be a key. -/
def keyScalar (read : Scan Unit) : Scan Unit := do
  noteKey
  allowKey false
  read

/-- A scalar in quotes. -/
def quoted (double : Bool) : Scan Unit := keyScalar do
  let (text, c) ← quotedScalar double (← get).cursor
  setCursor c
  emit (.scalar (if double then .doubleQuoted else .singleQuoted) text)

/-- A scalar without signs around it. -/
def plain : Scan Unit := keyScalar do
  let s ← get
  let (text, broken, c) ← plainScalar (← inFlow) (s.indent + 1) s.cursor
  setCursor c
  emit (.scalar .plain text)
  if broken then allowKey true

/-- A scalar whose lines stand below its sign. -/
def block (folded : Bool) : Scan Unit := do
  dropKey
  allowKey true
  let s ← get
  let (text, c) ← blockScalar folded s.indent s.cursor
  setCursor c
  emit (.scalar (if folded then .folded else .literal) text)

/-- Whether a plain scalar may begin with the characters that come next. -/
def startsPlain (flow : Bool) : List Char → Bool
  | [] => false
  | c :: rest =>
    if c == '-' then !(rest.head?.any isBlank)
    else if c == '?' || c == ':' then !flow && !atGap rest
    else !(isBlank c || isBreak c || ",[]\x7b\x7d#&*!|>'\"%@`".toList.contains c)

/-- The end of the text: what is open is closed. -/
def streamEnd : Scan Unit := do
  dedentTo (-1)
  dropKey
  allowKey false
  emit .streamEnd

/-- Reads the next token; the answer tells whether it was not the last. -/
def next : Scan Bool := do
  skipSpace ((← get).cursor.rest.length + 1)
  dropStaleKeys
  dedentTo (← get).cursor.place.column
  let s ← get
  let flow ← inFlow
  let first := s.cursor.place.column == 0
  match s.cursor.rest with
  | [] => streamEnd; return false
  | c :: rest =>
    if first && c == '%' then directive
    else if first && atMarker '-' s.cursor.rest then documentMarker .documentStart
    else if first && atMarker '.' s.cursor.rest then documentMarker .documentEnd
    else if c == '[' then flowStart .flowSequenceStart
    else if c == '\x7b' then flowStart .flowMappingStart
    else if c == ']' then flowEnd .flowSequenceEnd
    else if c == '\x7d' then flowEnd .flowMappingEnd
    else if c == ',' then dropKey; allowKey true; indicator .flowEntry
    else if c == '-' && atGap rest then blockEntry
    else if c == '?' && (flow || atGap rest) then key
    else if c == ':' && (flow || atGap rest) then value
    else if c == '*' then noteKey; allowKey false; emit (.reference (← anchorName))
    else if c == '&' then noteKey; allowKey false; emit (.anchor (← anchorName))
    else if c == '!' then noteKey; allowKey false; tag
    else if c == '|' && !flow then block false
    else if c == '>' && !flow then block true
    else if c == '\'' then quoted false
    else if c == '"' then quoted true
    else if startsPlain flow s.cursor.rest then plain
    else throw "a character that begins no token"
    return true

/-- Reads tokens to the end of the text. -/
def all (bound : Nat) : Scan Unit :=
  match bound with
  | 0 => throw "the text does not end"
  | n + 1 => do if ← next then all n

end Scan

/-- The tokens of a text, in order. -/
def Token.ofText (text : String) : Except Problem (List Token) := do
  let cs := text.toList
  if !cs.all isReadable then throw "a control character"
  let ((), s) ← (Scan.all (cs.length + 2)).run
    { cursor := .start cs, tokens := [], count := 0, indent := -1, outerIndents := [],
      keyAllowed := true, keys := [none] }
  return s.tokens.reverse

end Provision.Yaml
