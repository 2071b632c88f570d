import Provision.Files.Changes
import Provision.Program

/-!
# The command line program

A run works on a picture of the machine: what the environment says, what is known about the host,
and the folders that a run may look at. Afterwards what the run shows is written to the outputs, and
what it changed in the picture is changed on the machine.
-/

namespace Provision.Main

/-- Why the system does not open what is at a path. -/
def refusal : IO.Error → String
  | .permissionDenied .. => "Permission denied (os error 13)"
  | .noFileOrDirectory .. => "No such file or directory (os error 2)"
  | .hardwareFault .. => "Input/output error (os error 5)"
  | e => toString e

/-- Reads what is at a place, and so many levels below it. Links are not followed. -/
def readPlace (levels : Nat) (place : IO.FS.DirEntry) : IO (Option Files.Entry) := do
  try
    match (← place.path.symlinkMetadata).type, levels with
    | .dir, n + 1 =>
      try
        let children ← (← place.path.readDir).toList.filterMapM fun child => do
          return (← readPlace n child).map fun e => (child.fileName, e)
        return some (.folder children)
      catch e => return some (.closedFolder (refusal e))
    | .file, _ =>
      try return some (.file (← IO.FS.readBinFile place.path).toList)
      catch e => return some (.closedFile (refusal e))
    | .symlink, _ => return some (.link (← IO.FS.realPath place.path).toString)
    | _, _ => return none
  catch _ => return none

/-- Reads the entry that a path leads to, if there is one. -/
def readEntry (path : String) : IO (Option Files.Entry) := do
  try
    let place ← IO.FS.realPath path
    -- No path leads through more folders than it has bytes, so nothing is too deep to be read.
    readPlace Files.maxPath ⟨place.parent.getD place, place.fileName.getD ""⟩
  catch _ => return none

/-- The names on the way to a path from the root. -/
def namesOf (path : String) : List String := (Files.names path).filter (!Files.staysHere ·)

/-- The tree with the entry of a path, if there is one. -/
def addPath (tree : Files.Entry) (path : String) : IO Files.Entry := do
  match ← readEntry path with
  | some e => return tree.put (namesOf path) e
  | none => return tree

mutual

/-- Where the links of a tree lead. -/
def linkTargets : Files.Entry → List String
  | .link target => [target]
  | .folder children => linkTargetsIn children
  | _ => []

/-- Where the links below a folder lead. -/
def linkTargetsIn : List (String × Files.Entry) → List String
  | [] => []
  | (_, e) :: rest => linkTargets e ++ linkTargetsIn rest

end

/-- The tree with what its links lead to, and the links there, and so on so many times. -/
def addLinked : Nat → Files.Entry → IO Files.Entry
  | 0, tree => return tree
  | n + 1, tree => do
    let more ← (linkTargets tree).foldlM (fun tree path => do
      if (⟨tree, []⟩ : Files.Disk).exists? path then return tree else addPath tree path) tree
    addLinked n more

/-- The text of a file without the break at its end, and nothing if there is no such file. -/
def readLine (path : String) : IO String := do
  try return (← IO.FS.readFile path).trimAscii.toString
  catch _ => return ""

/-- The value of a name in the description of the operating system. -/
def release (lines : List String) (name : String) : String :=
  ((lines.find? (·.startsWith (name ++ "="))).map fun l =>
    (l.drop (name.length + 1)).replace "\"" "").getD ""

/-- The processes of the host. -/
def readProcesses : IO (List Process) := do
  try
    let place ← IO.FS.realPath "/proc"
    (← place.readDir).toList.filterMapM fun child => do
      match child.fileName.toNat? with
      | none => return none
      | some pid =>
        let words := (← readLine ("/proc/" ++ child.fileName ++ "/cmdline")).splitOn "\x00"
        let line := String.intercalate " " (words.filter (· ≠ ""))
        return some ⟨pid, ← readLine ("/proc/" ++ child.fileName ++ "/comm"), line⟩
  catch _ => return []

/-- What is known about the host. -/
def readHost : IO Host := do
  let lines := (← readLine "/etc/os-release").splitOn "\n"
  return {
    hostname := ← readLine "/proc/sys/kernel/hostname"
    os := "linux"
    platform := release lines "ID"
    platformVersion := release lines "VERSION_ID"
    kernelVersion := ← readLine "/proc/sys/kernel/osrelease"
    kernelArch := ← readLine "/proc/sys/kernel/arch"
    processes := ← readProcesses }

/-- The environment variables that a run may look at. -/
def variableNames : List String :=
  ["HOME", "PATH", "USER", "XDG_CONFIG_HOME", Log.Filter.variableName, "INSTRUMENTOR_PROFILE",
    "INSTRUMENTOR_CONFIG_DIR", "INSTRUMENTOR_CATALOG"]

/-- The values of the environment variables. -/
def readEnvironment : IO (List (String × String)) :=
  variableNames.filterMapM fun name => do
    return (← IO.getEnv name).map fun value => (name, value)

/-- The paths that a command line names, besides the configuration folder. -/
def namedPaths : CommandLine.Task → List String
  | .install o => o.paths ++ o.catalog.toList ++ o.statusFile.toList
  | _ => []

/-- The paths that a run may look at. -/
def pathsOf (words : List String) (m : Machine) : List String :=
  let standard := (Configuration.userFolder? m).map (Files.join · "instrumentor")
  match CommandLine.Invocation.ofWords m.valueOf? words with
  | .error _ => []
  | .ok i => ["/tmp", "/var/log"] ++ i.configFolder.toList ++ standard.toList ++
      namedPaths i.task

/-- A picture of the machine for a run. -/
def readMachine (words : List String) : IO Machine := do
  let here := (← IO.currentDir).toString
  let bare : Machine := {
    disk := ⟨.folder [], namesOf here⟩
    environment := ← readEnvironment
    home := none
    host := ← readHost
    network := fun _ => none
    interrupt := .never }
  let tree ← ((here :: pathsOf words bare).map (Files.join here)).foldlM addPath (.folder [])
  return { bare with disk := ⟨← addLinked Files.maxLinks tree, namesOf here⟩ }

/-- Carries out a change. -/
def carryOut (change : Files.Change) : IO Unit := do
  let pathOf (names : List String) : String := "/" ++ String.intercalate "/" names
  match change with
  | .makeFolder names => IO.FS.createDirAll (pathOf names)
  | .write names content => IO.FS.writeBinFile (pathOf names) ⟨content.toArray⟩
  | .remove names =>
    let place ← IO.FS.realPath (pathOf names)
    if ← place.isDir then IO.FS.removeDirAll place else IO.FS.removeFile place

/-- Writes an output. -/
def present : Output → IO Unit
  | .stdout text => IO.print text
  | .stderr line => IO.eprintln line
  | .message m => IO.eprintln (Log.line false m)

end Provision.Main

/-- Runs the program with the words of a command line. -/
def main (words : List String) : IO UInt32 := do
  let m ← Provision.Main.readMachine words
  let (shown, ending, after) := Provision.Program.run words m
  shown.forM Provision.Main.present
  (m.disk.root.changes after.disk.root).forM Provision.Main.carryOut
  return UInt32.ofNat ending.status
