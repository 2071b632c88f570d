import Provision.Files.Tree
import Provision.Shell.Word

/-!
# Wildcards of the shell

A pattern is a row of marked characters, because a character in quotes stands for itself. Patterns
select arms, trim values and name files: `trimmed` takes the part of a text away that a pattern
describes, and `pathsOf` finds the files that a path with wildcards names.
-/

namespace Provision.Shell

/-- A character of a pattern, and whether it may have a meaning of its own. -/
structure Mark where
  char : Char
  active : Bool
  deriving DecidableEq

/-- An element of a pattern. -/
inductive Wildcard where
  | one (c : Char)
  | any
  | many
  | among (negated : Bool) (ranges : List (Char × Char))
  deriving DecidableEq

/-- The ranges of a bracket up to the one that closes it, which is not the first character. -/
def rangesFrom (first : Bool) : List Mark → Option (List (Char × Char) × List Mark)
  | [] => none
  | m :: ms =>
    if m.char == ']' && m.active && !first then some ([], ms)
    else
      match ms with
      | dash :: high :: rest =>
        if dash.char == '-' && dash.active && !(high.char == ']' && high.active) then
          (rangesFrom false rest).map fun (rs, rest) => ((m.char, high.char) :: rs, rest)
        else (rangesFrom false (dash :: high :: rest)).map fun (rs, rest) =>
          ((m.char, m.char) :: rs, rest)
      | ms => (rangesFrom false ms).map fun (rs, rest) => ((m.char, m.char) :: rs, rest)

/-- The elements of a pattern; `bound` is more than its length. A bracket that is not closed stands
for itself. -/
def wildcardsFrom (bound : Nat) (ms : List Mark) : List Wildcard :=
  match bound, ms with
  | n + 1, m :: rest =>
    if !m.active then .one m.char :: wildcardsFrom n rest
    else if m.char == '*' then .many :: wildcardsFrom n rest
    else if m.char == '?' then .any :: wildcardsFrom n rest
    else if m.char == '[' then
      let negated := rest.head?.any fun m => m.char == '!' || m.char == '^'
      match rangesFrom true (if negated then rest.drop 1 else rest) with
      | some (ranges, rest) => .among negated ranges :: wildcardsFrom n rest
      | none => .one '[' :: wildcardsFrom n rest
    else .one m.char :: wildcardsFrom n rest
  | _, _ => []

/-- The elements of a pattern. -/
def wildcards (ms : List Mark) : List Wildcard := wildcardsFrom (ms.length + 1) ms

/-- Whether an element stands for a character. -/
def Wildcard.accepts (w : Wildcard) (c : Char) : Bool :=
  match w with
  | one d => c == d
  | any => true
  | many => true
  | among negated ranges => (ranges.any fun (low, high) => low ≤ c && c ≤ high) != negated

/-- Whether elements describe the whole of a text. -/
def fits : List Wildcard → List Char → Bool
  | [], cs => cs.isEmpty
  | .many :: ws, cs => (List.range (cs.length + 1)).any fun n => fits ws (cs.drop n)
  | w :: ws, c :: cs => w.accepts c && fits ws cs
  | _ :: _, [] => false

/-- A text without its shortest or longest part, at the end or the start, that elements
describe. -/
def trimmed (atEnd longest : Bool) (ws : List Wildcard) (cs : List Char) : List Char :=
  let sizes := List.range (cs.length + 1)
  let sizes := if longest then sizes.reverse else sizes
  let part (n : Nat) : List Char := if atEnd then cs.drop (cs.length - n) else cs.take n
  match sizes.find? fun n => fits ws (part n) with
  | some n => if atEnd then cs.take (cs.length - n) else cs.drop n
  | none => cs

/-- The characters of marks. -/
def markedText (ms : List Mark) : List Char := ms.map (·.char)

/-- Whether some mark may stand for something else. -/
def hasWildcard (ms : List Mark) : Bool :=
  ms.any fun m => m.active && (m.char == '*' || m.char == '?' || m.char == '[')

/-- The pieces between the slashes of a marked path. -/
def pathPieces : List Mark → List (List Mark)
  | [] => [[]]
  | m :: ms =>
    match m.char == '/', pathPieces ms with
    | true, ps => [] :: ps
    | false, p :: ps => (m :: p) :: ps
    | false, [] => [[m]]

/-- The names in a folder that elements describe, in order. A name that begins with a dot is only
found by a pattern that begins with one. -/
def namesThatFit (d : Files.Disk) (folder : String) (ws : List Wildcard) : List String :=
  match d.entry? (if folder = "" then "." else folder) with
  | some (.folder children) =>
    let hidden (name : String) : Bool :=
      name.toList.head? = some '.' && ws.head? != some (.one '.')
    ((children.map (·.1)).filter fun n => !hidden n && fits ws n.toList).mergeSort (· ≤ ·)
  | _ => []

/-- The files that pieces of a path name, continuing a path. -/
def pathsFrom (d : Files.Disk) (base : String) : List (List Mark) → List String
  | [] => if d.exists? base then [base] else []
  | p :: ps =>
    let sep := if ps.isEmpty then "" else "/"
    if hasWildcard p then
      (namesThatFit d base (wildcards p)).flatMap fun n => pathsFrom d (base ++ n ++ sep) ps
    else pathsFrom d (base ++ String.ofList (markedText p) ++ sep) ps

/-- The files that a field names, or the field as it stands if it names none. -/
def pathsOf (d : Files.Disk) (ms : List Mark) : List String :=
  let found := if hasWildcard ms then pathsFrom d "" (pathPieces ms) else []
  if found.isEmpty then [String.ofList (markedText ms)] else found

end Provision.Shell
