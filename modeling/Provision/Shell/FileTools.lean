import Provision.Shell.Session

/-!
# Tools that work on files

Making, listing, copying, moving and removing files. Each tool takes its arguments, those that
begin with a dash being flags, and gives its status; what goes wrong with one file does not keep
it from the others.
-/

namespace Provision.Shell

/-- The flags and the other arguments of a tool. What follows two dashes is no flag. -/
def splitFlags : List String → List Char × List String
  | [] => ([], [])
  | a :: rest =>
    if a = "--" then ([], rest)
    else
      let (flags, others) := splitFlags rest
      match a.toList with
      | '-' :: c :: cs => (c :: cs ++ flags, others)
      | _ => (flags, a :: others)

/-- A path's last name. -/
def lastName (path : String) : String :=
  let cs := Files.trimEnd path.toList.reverse
  if cs == ['/'] then "/" else String.ofList (cs.takeWhile (· != '/')).reverse

namespace Run

/-- Says that arguments are missing. -/
def missingOperand (tool what : String) : Run Nat := do
  complainAs tool ("missing " ++ what)
  writeError ("Try '" ++ tool ++ " --help' for more information.")
  return 1

/-- Does something for each argument; the status tells whether all of it could be done. -/
def forEach (tool : String) (f : String → Files.Disk → Except Files.Problem Files.Disk)
    (wording : String → String → String) : List String → Run Nat
  | [] => return 0
  | a :: rest => do
    match ← changeDisk (f a) with
    | none => forEach tool f wording rest
    | some p =>
      complainAs tool (wording a (problemText p))
      let _ ← forEach tool f wording rest
      return 1

end Run

/-- Removes a file, or a tree if that is asked for. -/
def removePath (tree : Bool) (d : Files.Disk) (path : String) :
    Except Files.Problem Files.Disk := do
  let place ← d.resolve false path
  match place.entry with
  | none => throw .missing
  | some (.folder _) =>
    if tree then return { d with root := d.root.erase place.names } else throw .isFolder
  | some (.closedFolder reason) => throw (if tree then .closed reason else .isFolder)
  | some _ => return { d with root := d.root.erase place.names }

/-- Puts an entry where a path leads. -/
def placeEntry (d : Files.Disk) (path : String) (e : Files.Entry) :
    Except Files.Problem Files.Disk := do
  let place ← d.resolve false path
  return { d with root := d.root.put place.names e }

/-- Where a file goes that is copied or moved: into the target if that is a folder. -/
def destination (d : Files.Disk) (source target : String) : String :=
  if d.isFolder target then Files.join target (lastName source) else target

/-- The names that a listing of a folder shows. -/
def shownNames (flags : List Char) (children : List (String × Files.Entry)) : List String :=
  let hidden (n : String) : Bool := n.toList.head? = some '.'
  let names := (children.map (·.1)).mergeSort (· ≤ ·)
  let names := if flags.contains 'a' || flags.contains 'A' then names else names.filter (!hidden ·)
  if flags.contains 'a' then "." :: ".." :: names else names

namespace Run

/-- Copies one file, or a tree if that is asked for. -/
def copyOne (tree : Bool) (target source : String) : Run Nat := do
  let d := (← get).disk
  let goal := destination d source target
  match d.entry? source with
  | none =>
    complainAs "cp" ("cannot stat '" ++ source ++ "': No such file or directory")
    return 1
  | some e =>
    if e.isFolder && !tree then
      complainAs "cp" ("-r not specified; omitting directory '" ++ source ++ "'")
      return 1
    else if let .closedFile reason := e then
      let problem := problemText (.closed reason)
      complainAs "cp" ("cannot open '" ++ source ++ "' for reading: " ++ problem)
      return 1
    else if (d.canonical source).toOption == (d.canonical goal).toOption then
      complainAs "cp" ("'" ++ source ++ "' and '" ++ goal ++ "' are the same file")
      return 1
    else match ← changeDisk (placeEntry · goal e) with
      | none => return 0
      | some p =>
        complainAs "cp" ("cannot create regular file '" ++ goal ++ "': " ++ problemText p)
        return 1

/-- Moves one file. -/
def moveOne (target source : String) : Run Nat := do
  let d := (← get).disk
  let goal := destination d source target
  match (d.resolve false source).toOption with
  | some ⟨names, some e⟩ =>
    let moved (d : Files.Disk) : Except Files.Problem Files.Disk :=
      placeEntry { d with root := d.root.erase names } goal e
    match ← changeDisk moved with
    | none => return 0
    | some p =>
      complainAs "mv" ("cannot move '" ++ source ++ "' to '" ++ goal ++ "': " ++ problemText p)
      return 1
  | _ =>
    complainAs "mv" ("cannot stat '" ++ source ++ "': No such file or directory")
    return 1

/-- Brings files to a target, each in a way of its own. -/
def bring (tool : String) (one : String → String → Run Nat) (paths : List String) :
    Run Nat := do
  match paths with
  | [] => missingOperand tool "file operand"
  | [a] => missingOperand tool ("destination file operand after '" ++ a ++ "'")
  | _ =>
    let target := paths.getLast?.getD ""
    let sources := paths.dropLast
    if sources.length > 1 && !(← get).disk.isFolder target then
      let what := if (← get).disk.exists? target then "Not a directory"
        else "No such file or directory"
      complainAs tool ("target '" ++ target ++ "': " ++ what)
      return 1
    return (← sources.mapM (one target)).foldl max 0

/-- Shows the names in folders. Files that are asked for by name come first. -/
def list (flags : List Char) (paths : List String) : Run Nat := do
  let d := (← get).disk
  let paths := (if paths.isEmpty then ["."] else paths).mergeSort (· ≤ ·)
  let (known, unknown) := paths.partition fun p =>
    (d.resolve false p).toOption.any (·.entry.isSome)
  for p in unknown do
    complainAs "ls" ("cannot access '" ++ p ++ "': No such file or directory")
  let (folders, files) := known.partition fun p => d.isFolder p && !flags.contains 'd'
  for p in files do writeLine p
  for (p, i) in folders.zipIdx do
    if paths.length > 1 then
      writeLine ((if i = 0 && files.isEmpty then "" else "\n") ++ p ++ ":")
    match d.entry? p with
    | some (.folder children) =>
      for n in shownNames flags children do writeLine n
    | some (.closedFolder reason) =>
      complainAs "ls" ("cannot open directory '" ++ p ++ "': " ++ problemText (.closed reason))
    | _ => pure ()
  let barred := folders.any fun p => (d.entry? p).any (·.isClosed)
  return if unknown.isEmpty && !barred then 0 else 2

/-- Makes a symbolic link. -/
def link (paths : List String) : Run Nat := do
  match paths with
  | [] => missingOperand "ln" "file operand"
  | target :: rest =>
    let d := (← get).disk
    let name := destination d target (rest.head?.getD ".")
    let made (d : Files.Disk) : Except Files.Problem Files.Disk := do
      if ((← d.resolve false name).entry).isSome then throw .exists
      placeEntry d name (.link target)
    match ← changeDisk made with
    | none => return 0
    | some p =>
      complainAs "ln" ("failed to create symbolic link '" ++ name ++ "': " ++ problemText p)
      return 1

/-- Removes empty folders. -/
def removeFolders : List String → Run Nat
  | [] => return 0
  | a :: rest => do
    let d := (← get).disk
    let refusal := match (d.resolve false a).toOption.bind (·.entry) with
      | some (.folder []) => none
      | some (.folder _) => some "Directory not empty"
      | some (.closedFolder reason) => some (problemText (.closed reason))
      | some _ => some "Not a directory"
      | none => some "No such file or directory"
    match refusal with
    | none =>
      let _ ← changeDisk fun d => removePath true d a
      removeFolders rest
    | some reason =>
      complainAs "rmdir" ("failed to remove '" ++ a ++ "': " ++ reason)
      let _ ← removeFolders rest
      return 1

/-- A tool that works on files, by its name and arguments. -/
def fileTool? (name : String) (args : List String) : Option (Run Nat) :=
  let (flags, paths) := splitFlags args
  let quiet := flags.contains 'f'
  let tree := flags.any fun c => c == 'r' || c == 'R'
  match name with
  | "touch" => some <|
    if paths.isEmpty then missingOperand "touch" "file operand"
    else
      forEach "touch" (fun a d => if d.isFolder a then .ok d else d.write true a [])
        (fun a p => "cannot touch '" ++ a ++ "': " ++ p) paths
  | "mkdir" => some <|
    if paths.isEmpty then missingOperand "mkdir" "operand"
    else
      forEach "mkdir" (fun a d => if flags.contains 'p' then d.makeFolders a else d.makeFolder a)
        (fun a p => "cannot create directory '" ++ a ++ "': " ++ p) paths
  | "rmdir" => some <|
    if paths.isEmpty then missingOperand "rmdir" "operand" else removeFolders paths
  | "rm" => some <|
    if paths.isEmpty && !quiet then missingOperand "rm" "operand"
    else
      forEach "rm"
        (fun a d => match removePath tree d a with
          | .error .missing => if quiet then .ok d else .error .missing
          | r => r)
        (fun a p => "cannot remove '" ++ a ++ "': " ++ p) paths
  | "cp" => some (bring "cp" (copyOne (tree || flags.contains 'a')) paths)
  | "mv" => some (bring "mv" moveOne paths)
  | "ls" => some (list flags paths)
  | "ln" => some (link paths)
  | "chmod" => some <|
    forEach "chmod" (fun a d => if d.exists? a then .ok d else .error .missing)
      (fun a p => "cannot access '" ++ a ++ "': " ++ p) (args.drop 1)
  | _ => none

end Run

end Provision.Shell
