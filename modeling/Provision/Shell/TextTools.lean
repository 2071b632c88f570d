import Provision.Shell.FileTools
import Provision.Shell.Sum
import Provision.Pattern.Compile

/-!
# Tools that work on texts

Showing, counting, sorting and searching the lines of files. A tool that is given no file reads
its input.
-/

namespace Provision.Shell

/-- A text as lines, each of which ended. -/
def textOfLines (lines : List String) : String := String.join (lines.map (· ++ "\n"))

/-- The lines of bytes. -/
def linesOfBytes (bytes : List UInt8) : List String :=
  (Text.linesOf (charsOf bytes)).map fun (l : List Char) => String.ofList l

/-- The words of a text, with blanks between them. -/
def countWords (cs : List Char) : Nat :=
  let blank (c : Char) : Bool := c == ' ' || c == '\n' || c == '\t' || c == '\r'
  (cs.zip (' ' :: cs)).countP fun (c, before) => blank before && !blank c

/-- The whole number that a text begins with. -/
def leadingNumber (text : String) : Nat :=
  ((String.ofList (text.toList.takeWhile Char.isDigit)).toNat?).getD 0

/-- The lines of a text without those that equal the one before. -/
def withoutRepeats : List String → List String
  | a :: b :: rest => if a = b then withoutRepeats (b :: rest) else a :: withoutRepeats (b :: rest)
  | lines => lines

/-- A count flag of a tool (`-n 3`, `-n3`, `-3`, `-c 3`): its letter and text, and what is left of
the arguments. -/
def countFlag : List String → Option (Char × String) × List String
  | [] => (none, [])
  | a :: rest =>
    match a.toList, rest with
    | ['-', 'n'], v :: rest => (some ('n', v), rest)
    | ['-', 'c'], v :: rest => (some ('c', v), rest)
    | '-' :: 'n' :: v, _ => (some ('n', String.ofList v), rest)
    | '-' :: 'c' :: v, _ => (some ('c', String.ofList v), rest)
    | '-' :: d :: v, _ =>
      if d.isDigit then (some ('n', String.ofList (d :: v)), rest) else countFlag rest
    | _, _ =>
      let (flag, rest) := countFlag rest
      (flag, a :: rest)

/-- The pattern of a search, in the form in which groups and counts are written without a
backslash. With one it is the other way round. -/
def extendedForm : List Char → List Char
  | '\\' :: c :: cs =>
    if "+?|()\x7b\x7d".toList.contains c then c :: extendedForm cs
    else '\\' :: c :: extendedForm cs
  | c :: cs =>
    if "+?|()\x7b\x7d".toList.contains c then '\\' :: c :: extendedForm cs
    else c :: extendedForm cs
  | [] => []

/-- A text as a pattern that stands for itself. -/
def literalForm (cs : List Char) : List Char :=
  cs.flatMap fun c => if Pattern.Read.isMeta c then ['\\', c] else [c]

/-- The tenths of a second that a text of seconds writes, rounded up. -/
def tenthsOf? (text : String) : Option Nat :=
  let cs := text.toList
  let whole := cs.takeWhile Char.isDigit
  let after := cs.drop whole.length
  let fraction := (after.drop 1).takeWhile Char.isDigit
  let rest := if after.head? = some '.' then (after.drop 1).drop fraction.length else after
  let fraction := if after.head? = some '.' then fraction else []
  let unit := match rest with
    | [] => some 1
    | ['s'] => some 1
    | ['m'] => some 60
    | ['h'] => some 3600
    | _ => none
  if whole.isEmpty && fraction.isEmpty then none
  else unit.map fun u =>
    let digits := whole ++ fraction
    let n := ((String.ofList digits).toNat?.getD 0) * u * 10
    (n + Nat.pow 10 fraction.length - 1) / Nat.pow 10 fraction.length

namespace Run

/-- All of the input. -/
def takeInput : Run (List UInt8) := do
  let s ← get
  set { s with input := [] }
  return s.input

/-- The bytes of each file, or of the input, under the names they were asked for by. -/
def contents (problem : String → String → Run Unit) (paths : List String) :
    Run (List (String × List UInt8) × Bool) := do
  if paths.isEmpty then return ([("-", ← takeInput)], true)
  let mut found := #[]
  let mut whole := true
  for p in paths do
    if p = "-" then found := found.push (p, ← takeInput)
    else match (← get).disk.read p with
      | .ok bytes => found := found.push (p, bytes)
      | .error e =>
        problem p (problemText e)
        whole := false
  return (found.toList, whole)

/-- Writes files one after another. -/
def concatenate : List String → Run Nat
  | [] => return 0
  | a :: rest => do
    if a = "-" then
      writeBytes (← takeInput)
      concatenate rest
    else match (← get).disk.read a with
      | .ok bytes =>
        writeBytes bytes
        concatenate rest
      | .error p =>
        complainAs "cat" (a ++ ": " ++ problemText p)
        let _ ← concatenate rest
        return 1

/-- Shows the first or the last part of files. -/
def showPart (tool : String) (args : List String) : Run Nat := do
  let (flag, paths) := countFlag args
  let (letter, text) := flag.getD ('n', "10")
  let n := leadingNumber ((text.dropPrefix "+").toString)
  let part {α : Type} (xs : List α) : List α :=
    if tool = "head" then xs.take n
    else if text.toList.head? = some '+' then xs.drop (n - 1)
    else xs.drop (xs.length - n)
  let (found, whole) ← contents
    (fun p e => complainAs tool ("cannot open '" ++ p ++ "' for reading: " ++ e)) paths
  for (_, bytes) in found do
    if letter = 'c' then writeBytes (part bytes)
    else
      let ended := bytes.getLast? = some 10
      let lines := linesOfBytes bytes
      let shown := part lines
      let reachesEnd := tool != "head" || shown.length = lines.length
      let text := textOfLines shown
      write (if !ended && reachesEnd then (text.dropEnd 1).toString else text)
  return statusOf whole

/-- Counts lines, words and bytes. -/
def count (flags : List Char) (paths : List String) : Run Nat := do
  let (found, whole) ← contents (fun p e => complainAs "wc" (p ++ ": " ++ e)) paths
  let flags := if flags.isEmpty then ['l', 'w', 'c'] else flags
  let chosen (lines words bytes : Nat) : List Nat :=
    (if flags.contains 'l' then [lines] else []) ++ (if flags.contains 'w' then [words] else []) ++
      (if flags.contains 'c' || flags.contains 'm' then [bytes] else [])
  let counts := found.map fun (p, bytes) =>
    (p, bytes.count 10, countWords (charsOf bytes), bytes.length)
  let total := counts.foldl (fun (l, w, b) (_, l', w', b') => (l + l', w + w', b + b')) (0, 0, 0)
  let columns := (chosen 0 0 0).length
  let width := if columns = 1 && counts.length = 1 then 1
    else if paths.isEmpty then 7 else (toString total.2.2).length
  let row (numbers : List Nat) (name : String) : String :=
    let cells := numbers.map fun n =>
      String.ofList (List.replicate (width - (toString n).length) ' ') ++ toString n
    String.intercalate " " cells ++ (if name = "" then "" else " " ++ name)
  for (p, l, w, b) in counts do
    writeLine (row (chosen l w b) (if paths.isEmpty then "" else p))
  if paths.length > 1 then writeLine (row (chosen total.1 total.2.1 total.2.2) "total")
  return statusOf whole

/-- Sorts the lines of files. -/
def sortLines (flags : List Char) (paths : List String) : Run Nat := do
  let (found, whole) ← contents (fun p e => complainAs "sort" ("cannot read: " ++ p ++ ": " ++ e))
    paths
  if !whole then return 2
  let number (l : String) : Int := (wholeNumber? l).getD 0
  let lines := found.flatMap fun (_, bytes) => linesOfBytes bytes
  let lines := lines.mergeSort (· ≤ ·)
  let lines := if flags.contains 'n' then lines.mergeSort (number · ≤ number ·) else lines
  let lines := if flags.contains 'u' then withoutRepeats lines else lines
  write (textOfLines (if flags.contains 'r' then lines.reverse else lines))
  return 0

/-- Shows the lines in which a pattern occurs. -/
def search (args : List String) : Run Nat := do
  let (flags, others) := splitFlags args
  match others with
  | [] =>
    writeError "Usage: grep [OPTION]... PATTERNS [FILE]..."
    writeError "Try 'grep --help' for more information."
    return 2
  | pattern :: paths =>
    let source := if flags.contains 'F' then literalForm pattern.toList
      else if flags.contains 'E' then pattern.toList
      else extendedForm pattern.toList
    let source := if flags.contains 'x' then "^(?:".toList ++ source ++ ")$".toList else source
    let source := if flags.contains 'i' then "(?i)".toList ++ source else source
    match Pattern.ofText (String.ofList source) with
    | .error _ =>
      complainAs "grep" "Invalid regular expression"
      return 2
    | .ok p =>
      let (found, whole) ← contents (fun p e => complainAs "grep" (p ++ ": " ++ e)) paths
      let mut any := false
      for (path, bytes) in found do
        let lead := if paths.length > 1 then path ++ ":" else ""
        let numbered := (linesOfBytes bytes).zipIdx
        let hits := numbered.filter fun (l, _) => p.occursIn l != flags.contains 'v'
        any := any || !hits.isEmpty
        if flags.contains 'q' then pure ()
        else if flags.contains 'l' then
          if !hits.isEmpty then writeLine path
        else if flags.contains 'c' then writeLine (lead ++ toString hits.length)
        else
          for (l, i) in hits do
            writeLine (lead ++ (if flags.contains 'n' then toString (i + 1) ++ ":" else "") ++ l)
      return if !whole then 2 else statusOf any

/-- Waits as long as arguments say. -/
def sleep (args : List String) : Run Nat := do
  match args.filter fun a => (tenthsOf? a).isNone with
  | [] =>
    if args.isEmpty then missingOperand "sleep" "operand"
    else
      pause ((args.filterMap tenthsOf?).foldl (· + ·) 0)
      return 0
  | bad =>
    for a in bad do complainAs "sleep" ("invalid time interval '" ++ a ++ "'")
    writeError "Try 'sleep --help' for more information."
    return 1

/-- Writes whole numbers, one on each line. -/
def numbers (first step last : Int) : Run Nat := do
  if step ≠ 0 then
    let count := ((last - first).fdiv step + 1).toNat
    for i in List.range count do writeLine (toString (first + step * i))
  return 0

/-- A tool that works on texts, by its name and arguments. -/
def textTool? (name : String) (args : List String) : Option (Run Nat) :=
  let (flags, paths) := splitFlags args
  match name with
  | "cat" => some (concatenate (if paths.isEmpty then ["-"] else paths))
  | "head" => some (showPart "head" args)
  | "tail" => some (showPart "tail" args)
  | "wc" => some (count flags paths)
  | "sort" => some (sortLines flags paths)
  | "grep" => some (search args)
  | "uniq" => some do
    let (found, whole) ← contents (fun p e => complainAs "uniq" (p ++ ": " ++ e)) paths
    for (_, bytes) in found do write (textOfLines (withoutRepeats (linesOfBytes bytes)))
    return statusOf whole
  | "tee" => some do
    let bytes ← takeInput
    writeBytes bytes
    forEach "tee" (fun a d => d.write (flags.contains 'a') a bytes)
      (fun a p => a ++ ": " ++ p) paths
  | "basename" => some do
    let base := lastName (args.head?.getD "")
    let suffix := ((args.drop 1).head?.getD "")
    let trimmed := (base.dropSuffix suffix).toString
    writeLine (if trimmed = "" then base else trimmed)
    return 0
  | "dirname" => some do
    let path := args.head?.getD ""
    writeLine (match Files.parent? path with
      | some "" => "."
      | some parent => parent
      | none => if Files.isAbsolute path then "/" else ".")
    return 0
  | "seq" => some do
    match args.map fun a => (wholeNumber? a).getD 0 with
    | [last] => numbers 1 1 last
    | [first, last] => numbers first 1 last
    | [first, step, last] => numbers first step last
    | _ => missingOperand "seq" "operand"
  | "sleep" => some (sleep args)
  | _ => none

end Run

end Provision.Shell
