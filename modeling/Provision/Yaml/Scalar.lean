import Provision.Yaml.Cursor
import Provision.Json.Reader

/-!
# Scalars of a YAML text

The five ways to write a scalar: plain, in single or double quotes, and the literal and folded
block forms. A line break inside a plain or quoted scalar is folded: one break becomes a space, of
several the first is dropped. Every function returns the text of the scalar and the cursor after
it, or says why the text is no scalar.
-/

namespace Provision.Yaml

open Provision.Json (hexDigit?)

/-- How a scalar is written. -/
inductive Style where
  | plain | singleQuoted | doubleQuoted | literal | folded
  deriving Repr, BEq, DecidableEq

/-- A scalar that is being read: its text, and the blanks and breaks after it that are written
only if more text follows. All parts have their newest character first. -/
structure Pending where
  text : List Char
  blanks : List Char
  firstBreak : List Char
  moreBreaks : List Char
  broken : Bool

namespace Pending

/-- Nothing was read yet. -/
def empty : Pending := ⟨[], [], [], [], false⟩

/-- Writes what is pending: the blanks of an unbroken line, or the breaks, folded. -/
def settle (p : Pending) : Pending :=
  let text :=
    if p.broken then
      if p.firstBreak = ['\n'] then
        if p.moreBreaks.isEmpty then ' ' :: p.text else p.moreBreaks ++ p.text
      else p.moreBreaks ++ p.firstBreak ++ p.text
    else p.blanks ++ p.text
  ⟨text, [], [], [], false⟩

/-- Adds a character, after what is pending. -/
def push (p : Pending) (c : Char) : Pending :=
  let p := p.settle
  { p with text := c :: p.text }

/-- Adds a blank; blanks after a break do not count. -/
def blank (p : Pending) (c : Char) : Pending :=
  if p.broken then p else { p with blanks := c :: p.blanks }

/-- Adds a break. -/
def newline (p : Pending) (kept : List Char) : Pending :=
  if p.broken then { p with moreBreaks := kept.reverse ++ p.moreBreaks }
  else { p with blanks := [], firstBreak := kept, broken := true }

/-- The text that was read. -/
def result (p : Pending) : String := String.ofList p.text.reverse

end Pending

/-- The blanks and breaks that come next. In a plain scalar a tab may not stand where the
indentation of a continued line belongs; `indent` is that column. -/
def skipSpacing (bound : Nat) (indent : Option Int) (p : Pending) (c : Cursor) :
    Except Problem (Pending × Cursor) :=
  match bound with
  | 0 => .ok (p, c)
  | n + 1 =>
    match c.rest with
    | [] => .ok (p, c)
    | x :: _ =>
      if isBlank x then
        match indent with
        | some column =>
          if p.broken && c.place.column < column && x == '\t' then
            .error "a tab stands in the indentation"
          else skipSpacing n indent (p.blank x) c.next
        | none => skipSpacing n indent (p.blank x) c.next
      else if isBreak x then
        let (kept, c) := c.lineBreak
        skipSpacing n indent (p.newline kept) c
      else .ok (p, c)

/-! ## Plain scalars -/

/-- Whether a plain scalar ends before the characters that come next. -/
def endsPlain (flow : Bool) : List Char → Bool
  | [] => true
  | ':' :: rest => atGap rest
  | c :: _ => flow && (c == ',' || c == '[' || c == ']' || c == '\x7b' || c == '\x7d')

/-- Whether a colon comes next that may not stand in a flow collection. -/
def strayColon : List Char → Bool
  | ':' :: c :: _ =>
    c == ',' || c == '?' || c == '[' || c == ']' || c == '\x7b' || c == '\x7d'
  | _ => false

/-- The characters of a plain scalar up to a blank, a break or its end. -/
def plainWord (bound : Nat) (flow : Bool) (p : Pending) (c : Cursor) :
    Except Problem (Pending × Cursor) :=
  match bound with
  | 0 => .ok (p, c)
  | n + 1 =>
    if flow && strayColon c.rest then .error "a colon stands in a flow collection"
    else if endsPlain flow c.rest then .ok (p, c)
    else match c.rest with
      | [] => .ok (p, c)
      | x :: _ =>
        if isBlank x || isBreak x then .ok (p, c) else plainWord n flow (p.push x) c.next

/-- The rest of a plain scalar; lines that continue it start at column `indent` or later. -/
def plainFrom (bound : Nat) (flow : Bool) (indent : Int) (p : Pending) (c : Cursor) :
    Except Problem (Pending × Cursor) :=
  match bound with
  | 0 => .ok (p, c)
  | n + 1 => do
    if c.atDocumentMarker || c.rest.head? == some '#' then return (p, c)
    let (p, c) ← plainWord c.rest.length flow p c
    match c.rest with
    | [] => return (p, c)
    | x :: _ =>
      if isBlank x || isBreak x then
        let (p, c) ← skipSpacing c.rest.length (some indent) p c
        if !flow && c.place.column < indent then return (p, c)
        else plainFrom n flow indent p c
      else return (p, c)

/-- A plain scalar, and whether a line break follows it. -/
def plainScalar (flow : Bool) (indent : Int) (c : Cursor) :
    Except Problem (String × Bool × Cursor) := do
  let (p, c) ← plainFrom (c.rest.length + 1) flow indent .empty c
  return (p.result, p.broken, c)

/-! ## Quoted scalars -/

/-- The character of an escape of one letter. -/
def letterEscape? (c : Char) : Option Char :=
  match c with
  | '0' => some '\x00'
  | 'a' => some '\x07'
  | 'b' => some '\x08'
  | 't' => some '\t'
  | '\t' => some '\t'
  | 'n' => some '\n'
  | 'v' => some '\x0b'
  | 'f' => some '\x0c'
  | 'r' => some '\r'
  | 'e' => some '\x1b'
  | ' ' => some ' '
  | '"' => some '"'
  | '/' => some '/'
  | '\\' => some '\\'
  | 'N' => some '\u0085'
  | '_' => some '\u00A0'
  | 'L' => some '\u2028'
  | 'P' => some '\u2029'
  | _ => none

/-- How many hexadecimal digits an escape letter asks for. -/
def hexEscape? (c : Char) : Option Nat :=
  match c with
  | 'x' => some 2
  | 'u' => some 4
  | 'U' => some 8
  | _ => none

/-- The number that exactly `n` hexadecimal digits write. -/
def hexNumber? (n : Nat) (cs : List Char) : Option Nat := do
  let ds := cs.take n
  guard (ds.length == n)
  ds.foldlM (fun v d => do return v * 16 + (← hexDigit? d)) 0

/-- What a backslash and the characters after it stand for. -/
def escapeIn (c : Cursor) : Except Problem (Char × Cursor) :=
  match c.rest with
  | _ :: e :: rest =>
    match letterEscape? e with
    | some x => .ok (x, c.forward 2)
    | none =>
      match hexEscape? e with
      | none => .error "an unknown escape"
      | some n =>
        match hexNumber? n rest with
        | none => .error "an escape lacks hexadecimal digits"
        | some v =>
          if (0xD800 ≤ v && v ≤ 0xDFFF) || 0x10FFFF < v then
            .error "an escape writes no character"
          else .ok (Char.ofNat v, c.forward (2 + n))
  | _ => .error "an unknown escape"

/-- The characters of a quoted scalar up to a blank, a break, its closing quote or the end. A
backslash before a line break in double quotes drops the break. -/
def quotedWord (bound : Nat) (double : Bool) (p : Pending) (c : Cursor) :
    Except Problem (Pending × Cursor) :=
  match bound with
  | 0 => .ok (p, c)
  | n + 1 =>
    match c.rest with
    | [] => .ok (p, c)
    | x :: rest =>
      if isBlank x || isBreak x then .ok (p, c)
      else if !double && x == '\'' then
        match rest with
        | '\'' :: _ => quotedWord n double { p with text := '\'' :: p.text } (c.forward 2)
        | _ => .ok (p, c)
      else if double && x == '"' then .ok (p, c)
      else if double && x == '\\' then
        match rest with
        | y :: _ =>
          if isBreak y then .ok ({ p with broken := true }, c.next.lineBreak.2)
          else match escapeIn c with
            | .ok (e, c) => quotedWord n double { p with text := e :: p.text } c
            | .error e => .error e
        | [] => .error "an unknown escape"
      else quotedWord n double { p with text := x :: p.text } c.next

/-- The rest of a quoted scalar after its opening quote. -/
def quotedFrom (bound : Nat) (double : Bool) (p : Pending) (c : Cursor) :
    Except Problem (Pending × Cursor) :=
  match bound with
  | 0 => .error "a quoted scalar does not end"
  | n + 1 => do
    if c.atDocumentMarker then throw "a document marker stands in a quoted scalar"
    if c.rest.isEmpty then throw "a quoted scalar does not end"
    let (p, c) ← quotedWord c.rest.length double p c
    if c.rest.head? == some (if double then '"' else '\'') then return (p, c.next)
    else
      let (p, c) ← skipSpacing c.rest.length none p c
      quotedFrom n double p.settle c

/-- A quoted scalar. -/
def quotedScalar (double : Bool) (c : Cursor) : Except Problem (String × Cursor) := do
  let (p, c) ← quotedFrom (c.rest.length + 1) double .empty c.next
  return (p.result, c)

/-! ## Block scalars -/

/-- What becomes of the breaks at the end of a block scalar. -/
inductive Chomp where
  | strip | clip | keep
  deriving BEq

/-- The chomping and indentation indicators after the sign of a block scalar. -/
def blockHeader (c : Cursor) : Except Problem (Chomp × Option Nat × Cursor) :=
  let chomp? (x : Char) : Option Chomp :=
    if x == '+' then some .keep else if x == '-' then some .strip else none
  let digit (x : Char) : Nat := x.toNat - '0'.toNat
  match c.rest with
  | x :: rest =>
    match chomp? x with
    | some chomp =>
      match rest with
      | d :: _ =>
        if d.isDigit then
          if d == '0' then .error "an indentation of zero"
          else .ok (chomp, some (digit d), c.forward 2)
        else .ok (chomp, none, c.next)
      | [] => .ok (chomp, none, c.next)
    | none =>
      if x.isDigit then
        if x == '0' then .error "an indentation of zero"
        else match rest.head?.bind chomp? with
          | some chomp => .ok (chomp, some (digit x), c.forward 2)
          | none => .ok (.clip, some (digit x), c.next)
      else .ok (.clip, none, c)
  | [] => .ok (.clip, none, c)

/-- The indentation and the empty lines that come next. While the indentation of the scalar is
not known, all spaces count and the deepest column reached is remembered in `deepest`. -/
def blockBreaks (bound : Nat) (indent : Option Nat) (deepest : Nat) (breaks : List Char)
    (c : Cursor) : Except Problem (Nat × List Char × Cursor) :=
  match bound with
  | 0 => .ok (deepest, breaks, c)
  | n + 1 =>
    let spaces := (c.rest.takeWhile (· == ' ')).length
    let c := match indent with
      | none => c.forward spaces
      | some i => c.forward (min spaces (i - c.place.column))
    let deepest := max deepest c.place.column
    let shallow := match indent with
      | none => true
      | some i => c.place.column < i
    if shallow && c.rest.head? == some '\t' then .error "a tab stands in the indentation"
    else match c.rest with
      | x :: _ =>
        if isBreak x then
          let (kept, c) := c.lineBreak
          blockBreaks n indent deepest (kept.reverse ++ breaks) c
        else .ok (deepest, breaks, c)
      | [] => .ok (deepest, breaks, c)

/-- A block scalar that is being read; the newest characters first. -/
structure Block where
  text : List Char
  leadingBreak : List Char
  breaks : List Char
  leadingBlank : Bool

/-- The lines of a block scalar with the given indentation. A folded scalar joins two lines that
both start with text; a line that starts with a blank keeps its breaks. -/
def blockLines (bound : Nat) (folded : Bool) (indent : Nat) (b : Block) (c : Cursor) :
    Except Problem (Block × Cursor) :=
  match bound with
  | 0 => .ok (b, c)
  | n + 1 =>
    match c.rest with
    | [] => .ok (b, c)
    | x :: _ =>
      if c.place.column != indent then .ok (b, c)
      else do
        let blank := isBlank x
        let text :=
          if folded && b.leadingBreak == ['\n'] && !b.leadingBlank && !blank then
            if b.breaks.isEmpty then ' ' :: b.text else b.breaks ++ b.text
          else b.breaks ++ b.leadingBreak ++ b.text
        let line := c.rest.takeWhile (fun x => !isBreak x)
        let (kept, c) := c.skipLine.lineBreak
        let (_, breaks, c) ← blockBreaks (c.rest.length + 1) (some indent) 0 [] c
        blockLines n folded indent ⟨line.reverse ++ text, kept.reverse, breaks, blank⟩ c

/-- A block scalar; `indent` is the indentation of the collection around it, or -1. -/
def blockScalar (folded : Bool) (indent : Int) (c : Cursor) :
    Except Problem (String × Cursor) := do
  let (chomp, increment, c) ← blockHeader c.next
  let c := c.skipWhile isBlank
  let c := if c.rest.head? == some '#' then c.skipLine else c
  if !(c.rest.isEmpty || c.rest.head?.any isBreak) then
    throw "text stands after the sign of a block scalar"
  let c := c.lineBreak.2
  let fixed := increment.map fun n => (if 0 ≤ indent then indent.toNat + n else n)
  let (deepest, breaks, c) ← blockBreaks (c.rest.length + 1) fixed 0 [] c
  let column := fixed.getD (max (max deepest (indent + 1).toNat) 1)
  let (b, c) ← blockLines (c.rest.length + 1) folded column ⟨[], [], breaks, false⟩ c
  let text := if chomp == .strip then b.text else b.leadingBreak ++ b.text
  let text := if chomp == .keep then b.breaks ++ text else text
  return (String.ofList text.reverse, c)

end Provision.Yaml
