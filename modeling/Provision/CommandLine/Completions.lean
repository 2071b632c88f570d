import Provision.CommandLine.Switch
import Provision.CommandLine.Help
import Provision.Failure
import Provision.Text.Letters

/-!
# Completion scripts

A shell that runs a completion script completes the words of the program's command lines. There is
a script for each shell that is known.
-/

namespace Provision.CommandLine

/-- A shell with completion. -/
inductive CompletingShell where
  | bash | elvish | fish | powershell | zsh
  deriving Repr, DecidableEq

namespace CompletingShell

/-- The names of the shells. -/
def names : List (String × CompletingShell) :=
  [("bash", bash), ("elvish", elvish), ("fish", fish), ("powershell", powershell),
    ("pwsh", powershell), ("zsh", zsh)]

/-- The shell of a name, up to the case of ASCII letters. -/
def ofName (name : String) : Except Failure CompletingShell :=
  match names.find? fun n => Text.sameLetters n.1 name with
  | some (_, shell) => .ok shell
  | none => .error (.unknownShell name)

/-- The words that are completed: the commands, and the switches of any of them. -/
def completedWords : List String :=
  let switches := (none :: Command.all.map some).flatMap Switch.ofCommand
  (Command.all.map Command.name ++ ["help"] ++ switches.map fun s => "--" ++ s.description.long)
    |>.eraseDups

/-- The completion script of a shell. -/
def script (shell : CompletingShell) : String :=
  let ws := String.intercalate " " completedWords
  match shell with
  | bash => "complete -W \"" ++ ws ++ "\" " ++ programName ++ "\n"
  | zsh => "#compdef " ++ programName ++ "\n_arguments '*:word:(" ++ ws ++ ")'\n"
  | fish => "complete -c " ++ programName ++ " -f -a \"" ++ ws ++ "\"\n"
  | elvish =>
    "set edit:completion:arg-completer[" ++ programName ++ "] = \x7b|@given| put " ++ ws ++
      " \x7d\n"
  | powershell =>
    "Register-ArgumentCompleter -Native -CommandName " ++ programName ++
      " -ScriptBlock \x7b param($word) '" ++ ws ++
      "'.Split(' ') | Where-Object \x7b $_ -like \"$word*\" \x7d \x7d\n"

end CompletingShell

end Provision.CommandLine
