/-!
# Signals

The signals that can be sent to a shell, and what is said about a program that one of them ended.
-/

namespace Provision.Shell

/-- A signal. `said` is what a shell says about a program that it ended, if it says anything. -/
structure Signal where
  number : Nat
  name : String
  said : Option String

/-- The signals by their numbers. -/
def signals : List Signal :=
  [⟨1, "HUP", some "Hangup"⟩, ⟨2, "INT", none⟩, ⟨3, "QUIT", some "Quit"⟩,
    ⟨4, "ILL", some "Illegal instruction"⟩, ⟨5, "TRAP", some "Trace/breakpoint trap"⟩,
    ⟨6, "ABRT", some "Aborted"⟩, ⟨7, "BUS", some "Bus error"⟩,
    ⟨8, "FPE", some "Floating point exception"⟩, ⟨9, "KILL", some "Killed"⟩,
    ⟨10, "USR1", some "User defined signal 1"⟩, ⟨11, "SEGV", some "Segmentation fault"⟩,
    ⟨12, "USR2", some "User defined signal 2"⟩, ⟨13, "PIPE", none⟩,
    ⟨14, "ALRM", some "Alarm clock"⟩, ⟨15, "TERM", some "Terminated"⟩]

/-- The signal of a name, in any case of letters, or of a number. -/
def signal? (text : String) : Option Signal :=
  let upper := String.ofList (text.toList.map Char.toUpper)
  signals.find? fun s => upper = s.name || text = toString s.number

/-- The name of what a trap waits for: a signal, or the end of the shell. -/
def trapName? (text : String) : Option String :=
  if text = "0" || text = "EXIT" then some "EXIT" else (signal? text).map (·.name)

end Provision.Shell
