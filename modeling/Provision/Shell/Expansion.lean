import Provision.Shell.Session
import Provision.Shell.Sum
import Provision.Shell.Wildcard

/-!
# What words become

Before a command runs, its words are expanded: values, outputs and sums are put in, what is not
quoted is cut into fields, and fields with wildcards become the files that they name. The output of
a command needs a shell that runs it, which is given as a `Runner`.
-/

namespace Provision.Shell

/-- Runs the text of a script. The first text stands before a message about a fault in it. -/
abbrev Runner := String → List Char → Run Unit

/-- A piece of an expanded word: text that stays in its field, text that is cut into fields, or
the end of a field. -/
inductive Piece where
  | kept (cs : List Char) (quoted : Bool)
  | cut (cs : List Char)
  | between

/-- The marks of a piece. Quoted characters stand for themselves. -/
def Piece.marks : Piece → List Mark
  | kept cs quoted => cs.map fun c => ⟨c, !quoted⟩
  | cut cs => cs.map fun c => ⟨c, true⟩
  | between => [⟨' ', false⟩]

/-- The text of pieces that are not cut. -/
def joined (ps : List Piece) : String := String.ofList (markedText (ps.flatMap Piece.marks))

/-- A piece that is cut unless it is quoted. -/
def Piece.loose : Piece → Piece
  | kept cs false => cut cs
  | p => p

/-- Fields in the making. The newest field and its newest mark come first, and `spaced` says that
a blank ended the field before. -/
structure Fields where
  done : List (List Mark)
  open? : Option (List Mark)
  spaced : Bool

namespace Fields

/-- No fields yet. -/
def empty : Fields := ⟨[], none, false⟩

/-- Marks go into the open field. -/
def add (f : Fields) (ms : List Mark) : Fields :=
  { f with open? := some (ms.reverse ++ f.open?.getD []), spaced := false }

/-- The open field, if there is one, is ended. -/
def close (f : Fields) (spaced : Bool) : Fields :=
  match f.open? with
  | some ms => ⟨ms :: f.done, none, spaced⟩
  | none => f

/-- A character of a text that is cut. Blanks between fields count as one; any other separator
ends a field even if there is nothing in it. -/
def cut (separators : List Char) (f : Fields) (c : Char) : Fields :=
  if !separators.contains c then f.add [⟨c, true⟩]
  else if c == ' ' || c == '\t' || c == '\n' then f.close true
  else if f.open?.isSome then f.close false
  else if f.spaced then { f with spaced := false }
  else { f with done := [] :: f.done }

/-- A piece of a word. -/
def piece (separators : List Char) (f : Fields) : Piece → Fields
  | .kept cs quoted => f.add (cs.map fun c => ⟨c, !quoted⟩)
  | .cut cs => cs.foldl (cut separators) f
  | .between => f.close false

/-- The fields in order. -/
def toList (f : Fields) : List (List Mark) :=
  ((f.open?.toList ++ f.done).map List.reverse).reverse

end Fields

/-- The fields of a word. -/
def fieldsOf (separators : List Char) (ps : List Piece) : List (List Mark) :=
  (ps.foldl (Fields.piece separators) .empty).toList

/-- The pieces of all arguments, each of which is a field of its own. -/
def argumentPieces (piece : List Char → Piece) (args : List String) : List Piece :=
  (args.map fun a => [piece a.toList]).intersperse [.between] |>.flatten

/-- What a shell says about a variable without a value. -/
def absence (emptyToo : Bool) : String :=
  if emptyToo then "parameter not set or null" else "parameter not set"

namespace Run

/-- The pieces of a value. All arguments together are fields of their own. -/
def valuePieces (name value : String) (quoted : Bool) : Run (List Piece) := do
  let args := (← get).arguments
  match name, quoted with
  | "@", true => return argumentPieces (.kept · true) args
  | "*", true =>
    let sep := String.ofList ((← separators).take 1)
    return [.kept (String.intercalate sep args).toList true]
  | "@", false => return argumentPieces .cut args
  | "*", false => return argumentPieces .cut args
  | _, true => return [.kept value.toList true]
  | _, false => return [.cut value.toList]

/-- The value of a sum, which may assign. -/
def sumValue (source : String) : Run Int := do
  let s ← get
  let lookup (name : String) : Option String :=
    (s.values.find? (·.name = name)).bind (·.value)
  match (Sum.read source.toList).bind (Sum.value lookup []) with
  | .ok (n, assigned) =>
    for (name, n) in assigned.reverse do assign name (toString n)
    return n
  | .error f => giveUp (f.message source)

/-- The value that a variable must have, or none if that is allowed. -/
def heldValue (name : String) : Run String := do
  match ← valueOf? name with
  | some v => return v
  | none =>
    if (← get).settings.known then giveUp (name ++ ": parameter not set") else return ""

/-- Runs what was set to be run at the end, once `x` is done or has left the shell. -/
def withEnding (run : Runner) (x : Run Unit) : Run Unit := do
  try x
  catch
    | .signal p n name => throw (.signal p n name)
    | _ => pure ()
  let s ← get
  match s.traps.find? (fun t => t.1 = "EXIT") with
  | none => pure ()
  | some (_, action) =>
    set { s with traps := [] }
    let left ← try
        run "" action.toList
        pure false
      catch
        | .signal p n name => throw (.signal p n name)
        | _ => pure true
    if !left then setStatus s.status

/-- Runs something in a shell of its own: its variables, its folder and its outputs end with it,
and so does its leaving. -/
def apart (run : Runner) (x : Run Unit) : Run Unit := do
  let old ← get
  set { old with traps := [] }
  withEnding run x
  modify fun s =>
    { old with
      disk := { s.disk with here := old.disk.here }
      status := s.status
      input := s.input
      piped := s.piped
      events := s.events }

/-- What something writes to its output. -/
def captured (run : Runner) (x : Run Unit) : Run (List UInt8) := do
  let old ← get
  set { old with sink := .pipe, piped := [] }
  apart run x
  let s ← get
  set { s with sink := old.sink, piped := old.piped }
  return s.piped.reverse

/-- The text that a command writes, without the line ends at its end and without zero bytes. -/
def outputText (run : Runner) (source : List Char) : Run (List Char) := do
  let cs := (charsOf (← captured run (run "" source))).filter (· != '\x00')
  return (cs.reverse.dropWhile (· == '\n')).reverse

mutual

/-- The pieces of a part of a word. -/
def expandPart (run : Runner) : Part → Run (List Piece)
  | .text cs quoted => return [.kept cs quoted]
  | .home => return [.kept ((← valueOf? "HOME").getD "~").toList true]
  | .output source quoted => do
    let text ← outputText run source
    return [if quoted then .kept text true else .cut text]
  | .sum inner => do
    let n ← sumValue (joined (← expandParts run inner))
    return [.kept (toString n).toList true]
  | .variable name choice emptyToo other quoted => do
    let noArguments := (name = "@" || name = "*") && (← get).arguments.isEmpty
    let held ← if noArguments then pure none else valueOf? name
    let absent := held.isNone || (emptyToo && held = some "")
    let present := valuePieces name (held.getD "") quoted
    match choice with
    | .value =>
      if noArguments then present else valuePieces name (← heldValue name) quoted
    | .length =>
      if name = "@" || name = "*" then
        return [.kept (toString (← get).arguments.length).toList quoted]
      else return [.kept (toString (← heldValue name).length).toList quoted]
    | .unless => if absent then otherWord run quoted other else present
    | .instead => if absent then return [] else otherWord run quoted other
    | .assigned =>
      if absent then
        let text := joined (← expandParts run other)
        assign name text
        valuePieces name text quoted
      else present
    | .demanded =>
      if absent then
        let text := joined (← expandParts run other)
        giveUp (name ++ ": " ++ if text = "" then absence emptyToo else text)
      else present
    | .withoutEnd longest =>
      let ms := (← expandParts run other).flatMap Piece.marks
      let value ← heldValue name
      valuePieces name (String.ofList (trimmed true longest (wildcards ms) value.toList)) quoted
    | .withoutStart longest =>
      let ms := (← expandParts run other).flatMap Piece.marks
      let value ← heldValue name
      valuePieces name (String.ofList (trimmed false longest (wildcards ms) value.toList)) quoted

/-- The pieces of the word that stands for a value. -/
def otherWord (run : Runner) (quoted : Bool) (other : List Part) : Run (List Piece) := do
  let ps ← expandParts run other
  return if quoted then ps else ps.map Piece.loose

/-- The pieces of parts. -/
def expandParts (run : Runner) : List Part → Run (List Piece)
  | [] => return []
  | p :: ps => do
    let first ← expandPart run p
    return first ++ (← expandParts run ps)

end

/-- The text of a word that is not cut. -/
def expandText (run : Runner) (w : Word) : Run String := do
  return joined (← expandParts run w)

/-- The elements of a word that is a pattern. -/
def expandPattern (run : Runner) (w : Word) : Run (List Wildcard) := do
  return wildcards ((← expandParts run w).flatMap Piece.marks)

/-- The fields of words. -/
def expandFields (run : Runner) : List Word → Run (List String)
  | [] => return []
  | w :: ws => do
    let fields := fieldsOf (← separators) (← expandParts run w)
    let s ← get
    let texts := fields.flatMap fun ms =>
      if s.settings.literal then [String.ofList (markedText ms)] else pathsOf s.disk ms
    return texts ++ (← expandFields run ws)

end Run

end Provision.Shell
