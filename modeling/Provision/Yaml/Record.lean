import Provision.Yaml.Document
import Provision.Record

/-!
# Records in YAML

A record is a mapping whose keys are texts; a key that is no field is passed over, and a field may
be given once. Any scalar is a text. An empty plain scalar is also an empty record, list or map,
and an absent optional value, as are the words for null when they are written plainly.

An alias stands for the node with its anchor. To keep a small text from standing for a huge one,
aliases may be followed a hundred times for each event of the document; what no field asks for is
not followed at all. The state of reading is the number of aliases followed so far.
-/

namespace Provision.Yaml

/-- A step of reading a record: the number of aliases followed so far, and failure. -/
abbrev Follow := StateT Nat Option

/-- Stops reading. -/
def refuse {α : Type} : Follow α := fun _ => none

/-- The node that a node is or stands for. -/
def follow (d : Document) : Node → Follow Node
  | .reference anchor => do
    let count := (← get) + 1
    if 100 * d.events < count then refuse
    set count
    match d.target? anchor with
    | some n => pure n
    | none => refuse
  | n => pure n

/-- Whether a node is an empty plain scalar. -/
def isMissing : Node → Bool
  | .scalar _ .plain "" => true
  | _ => false

/-- The words for null. -/
def isNull (text : String) : Bool :=
  text == "~" || text == "null" || text == "Null" || text == "NULL"

/-- The tag of null. -/
def nullTag : String := "tag:yaml.org,2002:null"

/-- Whether a text is a run of digits that would be read as octal: such a text is no number. -/
def isOctalLike (cs : List Char) : Bool :=
  match cs with
  | '0' :: d :: ds => (d :: ds).all Char.isDigit
  | _ => false

/-- The value of a digit in a base up to sixteen. -/
def digitIn (base : Nat) (c : Char) : Option Nat :=
  (Provision.Json.hexDigit? c).bind fun d => if d < base then some d else none

/-- The number that digits in a base write. -/
def numberIn? (base : Nat) (cs : List Char) : Option Nat :=
  if cs.isEmpty then none
  else cs.foldlM (fun n c => (digitIn base c).map (n * base + ·)) 0

/-- The number that a text without its sign writes: hexadecimal, octal and binary numbers say so,
and a decimal number has no zeros in front. -/
def magnitude? (cs : List Char) : Option Nat :=
  let marked := match cs with
    | '0' :: 'x' :: ds => numberIn? 16 ds
    | '0' :: 'o' :: ds => numberIn? 8 ds
    | '0' :: 'b' :: ds => numberIn? 2 ds
    | _ => none
  marked <|> (if isOctalLike cs then none else numberIn? 10 cs)

/-- The unsigned 64-bit number that a text writes; it has no minus sign, not even as zero. -/
def natural? (text : String) : Option Nat :=
  match text.toList with
  | '+' :: cs => (magnitude? cs).bind fun n => if n < Nat.pow 2 64 then some n else none
  | cs => (magnitude? cs).bind fun n => if n < Nat.pow 2 64 then some n else none

/-- The values of fields in a mapping; `found` holds those of the entries so far. -/
def fieldValues (d : Document) (fs : List Field) (found : List (String × Node)) :
    List (Node × Node) → Follow (List (Option Node))
  | [] => pure (fs.map fun f => (found.find? (fun v => v.1 = f.name)).map (·.2))
  | (key, value) :: rest => do
    match ← follow d key with
    | .scalar _ _ name =>
      if fs.any (fun f => f.name = name) then
        if found.any (fun v => v.1 = name) then refuse
        else fieldValues d fs ((name, value) :: found) rest
      else fieldValues d fs found rest
    | _ => refuse

/-- The name of a tag that is used for a choice: what follows its exclamation mark. -/
def choiceTag (tag : String) : Option String :=
  match tag.toList with
  | '!' :: name => some (String.ofList name)
  | _ => none

/-- How YAML shows the parts of a value. -/
def format (d : Document) : Format Follow Node where
  refuse := refuse
  text n := do
    match ← follow d n with
    | .scalar _ _ text => pure text
    | _ => refuse
  natural n := do
    match ← follow d n with
    | .scalar mark style text =>
      let readable := style == .plain ||
        (style == .literal && mark.tag == some "tag:yaml.org,2002:int")
      match natural? text with
      | some v => if readable then pure v else refuse
      | none => refuse
    | _ => refuse
  choice names n := do
    match ← follow d n with
    | .scalar mark _ text =>
      let name := (mark.tag.bind choiceTag).getD text
      -- A name given by the tag leaves no value.
      let complete := (mark.tag.bind choiceTag).isNone || text == "" || isNull text
      if complete && names.contains name then pure name else refuse
    | _ => refuse
  present n := do
    match ← follow d n with
    | .scalar mark style text =>
      if style != .plain then pure (some (.scalar mark style text))
      else match mark.tag with
        | some tag =>
          if tag != nullTag then pure (some (.scalar mark style text))
          else if isNull text then pure none
          else refuse
        | none =>
          if text == "" || isNull text then pure none else pure (some (.scalar mark style text))
    | n => pure (some n)
  items n := do
    match ← follow d n with
    | .sequence _ items => pure items
    | n => if isMissing n then pure [] else refuse
  entries n := do
    match ← follow d n with
    | .mapping _ entries => pure entries
    | n => if isMissing n then pure [] else refuse
  fields fs n := do
    match ← follow d n with
    | .mapping _ entries => fieldValues d fs [] entries
    | n => if isMissing n then fieldValues d fs [] [] else refuse

/-- Reads the record of a text; a text without content is an empty record. -/
def read? {α : Type} (read : Format Follow Node → Node → Follow α) (text : String) :
    Except Problem α := do
  let d ← Document.ofText text
  match (read (format d) (d.root.getD (.missing default))).run 0 with
  | some (a, _) => return a
  | none => throw "the record does not have the expected form"

end Provision.Yaml
