import Provision.Shell.Token

/-!
# Shell commands

A command is a simple command of words, or is made of other commands. `Script.read` reads the text
of a script by recursive descent, line by line: a script is the commands that stand before its
first fault, and that fault, because the shell runs what it has read before it reads on.
-/

namespace Provision.Shell

/-- Where the output or the input of a command goes to or comes from. -/
inductive Redirect where
  | write (stream : Nat) (append : Bool) (target : Word)
  | copy (stream : Nat) (target : Word)
  | read (source : Word)
  | document (body : Word)
  deriving Inhabited

/-- A command. -/
inductive Command where
  | skip
  | simple (line : Nat) (assignments : List (String × Word)) (words : List Word)
      (redirects : List Redirect)
  | sequence (first second : Command)
  | both (first second : Command)
  | either (first second : Command)
  | negation (command : Command)
  | pipe (first second : Command)
  | background (command : Command)
  | redirected (body : Command) (redirects : List Redirect)
  | subshell (body : Command)
  | define (name : String) (body : Command)
  | choose (condition yes no : Command)
  | loop (expected : Bool) (condition body : Command)
  | each (name : String) (items : List Word) (body : Command)
  | select (subject : Word) (arms : List (List Word × Command))
  deriving Inhabited

/-- One command and then another. -/
def Command.andThen (first second : Command) : Command :=
  match second with
  | .skip => first
  | _ => .sequence first second

/-- A command with redirections, if there are any. -/
def Command.withRedirects (body : Command) (rs : List Redirect) : Command :=
  if rs.isEmpty then body else .redirected body rs

/-- A fault and the line where it was found. -/
structure Misread where
  line : Nat
  fault : Fault

/-- Reading tokens, which may meet a fault. -/
abbrev Reading := Except Misread

/-- The fault that the next token does not fit, where a certain word may be the only one that
does. -/
def misfit (ls : List Lexeme) (expected : Option String) : Misread :=
  match ls with
  | ⟨.fault f, line⟩ :: _ => ⟨line, f⟩
  | l :: _ => ⟨l.line, .unexpected l.token.name expected⟩
  | [] => ⟨1, .unexpected "end of file" expected⟩

/-- The mark at the beginning of tokens. -/
def leadingMark? : List Lexeme → Option String
  | ⟨.mark m, _⟩ :: _ => some m
  | _ => none

/-- The word with a meaning of its own at the beginning of tokens. -/
def leadingKeyword? : List Lexeme → Option String
  | l :: _ => l.token.keyword?
  | [] => none

/-- Whether the tokens are at their end. -/
def finished : List Lexeme → Bool
  | ⟨.finish, _⟩ :: _ => true
  | [] => true
  | _ => false

/-- Tokens without the line ends at their beginning. -/
def skipLines : List Lexeme → List Lexeme
  | ⟨.mark "\n", _⟩ :: ls => skipLines ls
  | ls => ls

/-- The words and marks that end a list of commands inside another command. -/
def closers : List String :=
  ["do", "done", "elif", "else", "esac", "fi", "then", "\x7d", ")", ";;"]

/-- Whether a list of commands ends here. -/
def atCloser (ls : List Lexeme) : Bool :=
  (leadingKeyword? ls).any closers.contains || (leadingMark? ls).any closers.contains

/-- Tokens after a word or mark that has to come next. -/
def expect (text : String) (ls : List Lexeme) : Reading (List Lexeme) :=
  if leadingKeyword? ls = some text || leadingMark? ls = some text then .ok (ls.drop 1)
  else .error (misfit ls (some text))

/-- The name and the value of an assignment: a word that begins with a name and an equals sign. -/
def assignment? : Word → List Char → Option (String × Word)
  | [], _ => none
  | .text ['='] false :: rest, name =>
    if name.isEmpty then none else some (String.ofList name.reverse, Word.withHome rest)
  | .text [c] false :: rest, name =>
    if isNameChar c && !(name.isEmpty && c.isDigit) then assignment? rest (c :: name) else none
  | _, _ => none

/-- The redirection at the beginning of tokens, if there is one. -/
def redirect? (ls : List Lexeme) : Reading (Option (Redirect × List Lexeme)) :=
  match ls with
  | ⟨.document _ body, _⟩ :: rest => .ok (some (.document body, rest))
  | ⟨.redirect stream sign, _⟩ :: ⟨.word w, _⟩ :: rest =>
    let r : Redirect :=
      if sign = ">" || sign = ">|" then .write stream false w
      else if sign = ">>" then .write stream true w
      else if sign = "<" then .read w
      else .copy stream w
    .ok (some (r, rest))
  | ⟨.redirect _ _, _⟩ :: rest => .error (misfit rest none)
  | _ => .ok none

/-- All redirections at the beginning of tokens; `bound` is more than their number. -/
def redirectsFrom (bound : Nat) (ls : List Lexeme) : Reading (List Redirect × List Lexeme) :=
  match bound with
  | 0 => .ok ([], ls)
  | n + 1 => do
    match ← redirect? ls with
    | none => return ([], ls)
    | some (r, rest) =>
      let (rs, rest) ← redirectsFrom n rest
      return (r :: rs, rest)

/-- The parts of a simple command. -/
structure Simple where
  assignments : List (String × Word)
  words : List Word
  redirects : List Redirect

/-- The parts of a simple command; `started` says that a word was read, after which nothing is
assigned. -/
def simpleFrom (bound : Nat) (started : Bool) (ls : List Lexeme) :
    Reading (Simple × List Lexeme) :=
  match bound with
  | 0 => .ok (⟨[], [], []⟩, ls)
  | n + 1 => do
    match ← redirect? ls with
    | some (r, rest) =>
      let (s, ls) ← simpleFrom n started rest
      return ({ s with redirects := r :: s.redirects }, ls)
    | none =>
      match ls with
      | ⟨.word w, _⟩ :: rest =>
        match (if started then none else assignment? w []) with
        | some a =>
          let (s, ls) ← simpleFrom n started rest
          return ({ s with assignments := a :: s.assignments }, ls)
        | none =>
          let (s, ls) ← simpleFrom n true rest
          return ({ s with words := w :: s.words }, ls)
      | ⟨.fault f, line⟩ :: _ => throw ⟨line, f⟩
      | _ => return (⟨[], [], []⟩, ls)

/-- The words up to the end of a line. -/
def wordsFrom : List Lexeme → List Word × List Lexeme
  | ⟨.word w, _⟩ :: ls =>
    let (ws, rest) := wordsFrom ls
    (w :: ws, rest)
  | ls => ([], ls)

/-- The patterns of an arm, which a parenthesis ends. -/
def patternsFrom : List Lexeme → Reading (List Word × List Lexeme)
  | ⟨.word w, _⟩ :: ⟨.mark "|", _⟩ :: ls => do
    let (ws, rest) ← patternsFrom ls
    return (w :: ws, rest)
  | ⟨.word w, _⟩ :: ⟨.mark ")", _⟩ :: ls => .ok ([w], ls)
  | ⟨.word _, _⟩ :: ls => .error (misfit ls (some ")"))
  | ls => .error (misfit ls (some ")"))

/-- The name of a loop's variable at the beginning of tokens. -/
def loopName (ls : List Lexeme) : Reading (String × List Lexeme) :=
  match ls with
  | ⟨.word w, line⟩ :: rest =>
    match (Word.plain? w).map String.ofList with
    | some name => if isName name then .ok (name, rest) else .error ⟨line, .badLoopName⟩
    | none => .error ⟨line, .badLoopName⟩
  | ⟨.fault f, line⟩ :: _ => .error ⟨line, f⟩
  | l :: _ => .error ⟨l.line, .badLoopName⟩
  | [] => .error ⟨1, .badLoopName⟩

/-- What a loop goes over: the words after `in`, or all arguments. -/
def loopItems (ls : List Lexeme) : Reading (List Word × List Lexeme) :=
  if leadingKeyword? (skipLines ls) = some "in" then
    let (items, ls) := wordsFrom ((skipLines ls).drop 1)
    match leadingMark? ls with
    | some ";" => .ok (items, ls.drop 1)
    | some "\n" => .ok (items, ls.drop 1)
    | _ => .error (misfit ls none)
  else
    let arguments : Word := [.variable "@" .value false [] true]
    .ok ([arguments], if leadingMark? ls = some ";" then ls.drop 1 else ls)

/-- The commands that no function may be named for. -/
def reservedNames : List String :=
  [".", ":", "break", "continue", "eval", "exec", "exit", "export", "readonly", "return", "set",
    "shift", "times", "trap", "unset"]

mutual

/-- Commands one after another inside another command. `mayEnd` says that there need not be one
more. -/
def listFrom (bound : Nat) (mayEnd : Bool) (ls : List Lexeme) :
    Reading (Command × List Lexeme) :=
  match bound with
  | 0 => .error (misfit ls none)
  | n + 1 => do
    let ls := skipLines ls
    if finished ls || (mayEnd && atCloser ls) then return (.skip, ls)
    let (first, ls) ← chainFrom n ls
    match leadingMark? ls with
    | some "&" =>
      let (rest, ls) ← listFrom n true (ls.drop 1)
      return (first.background.andThen rest, ls)
    | some ";" =>
      let (rest, ls) ← listFrom n true (ls.drop 1)
      return (first.andThen rest, ls)
    | some "\n" =>
      let (rest, ls) ← listFrom n true ls
      return (first.andThen rest, ls)
    | _ => return (first, ls)

/-- Commands joined by signs for "and" and "or". -/
def chainFrom (bound : Nat) (ls : List Lexeme) : Reading (Command × List Lexeme) :=
  match bound with
  | 0 => .error (misfit ls none)
  | n + 1 => do
    let (first, ls) ← pipeFrom n ls
    chainRest n first ls

/-- What follows the first commands of a chain. -/
def chainRest (bound : Nat) (first : Command) (ls : List Lexeme) :
    Reading (Command × List Lexeme) :=
  match bound with
  | 0 => .error (misfit ls none)
  | n + 1 =>
    match leadingMark? ls with
    | some "&&" => do
      let (second, ls) ← pipeFrom n (skipLines (ls.drop 1))
      chainRest n (.both first second) ls
    | some "||" => do
      let (second, ls) ← pipeFrom n (skipLines (ls.drop 1))
      chainRest n (.either first second) ls
    | _ => .ok (first, ls)

/-- Commands of which each reads the output of the one before it, or the negation of them. -/
def pipeFrom (bound : Nat) (ls : List Lexeme) : Reading (Command × List Lexeme) :=
  match bound with
  | 0 => .error (misfit ls none)
  | n + 1 => do
    if leadingKeyword? ls = some "!" then
      let (c, ls) ← pipeRest n (ls.drop 1)
      return (.negation c, ls)
    else pipeRest n ls

/-- Commands of which each reads the output of the one before it. -/
def pipeRest (bound : Nat) (ls : List Lexeme) : Reading (Command × List Lexeme) :=
  match bound with
  | 0 => .error (misfit ls none)
  | n + 1 => do
    let (first, ls) ← commandFrom n ls
    if leadingMark? ls = some "|" then
      let (second, ls) ← pipeRest n (skipLines (ls.drop 1))
      return (.pipe first second, ls)
    else return (first, ls)

/-- One command. -/
def commandFrom (bound : Nat) (ls : List Lexeme) : Reading (Command × List Lexeme) :=
  match bound with
  | 0 => .error (misfit ls none)
  | n + 1 => do
    let closed (c : Command) (closer : String) (ls : List Lexeme) :
        Reading (Command × List Lexeme) := do
      let (rs, ls) ← redirectsFrom ls.length (← expect closer ls)
      return (c.withRedirects rs, ls)
    if leadingMark? ls = some "(" then
      let (body, ls) ← listFrom n false (ls.drop 1)
      closed (.subshell body) ")" ls
    else match leadingKeyword? ls with
    | some "\x7b" =>
      let (body, ls) ← listFrom n false (ls.drop 1)
      closed body "\x7d" ls
    | some "if" =>
      let (c, ls) ← choiceFrom n (ls.drop 1)
      closed c "fi" ls
    | some "while" =>
      let (c, ls) ← loopFrom n true (ls.drop 1)
      closed c "done" ls
    | some "until" =>
      let (c, ls) ← loopFrom n false (ls.drop 1)
      closed c "done" ls
    | some "for" =>
      let (name, ls) ← loopName (ls.drop 1)
      let (items, ls) ← loopItems ls
      let (body, ls) ← listFrom n false (← expect "do" (skipLines ls))
      closed (.each name items body) "done" ls
    | some "case" =>
      match ls.drop 1 with
      | ⟨.word subject, _⟩ :: ls =>
        let (arms, ls) ← armsFrom n (skipLines (← expect "in" (skipLines ls)))
        closed (.select subject arms) "esac" ls
      | ls => throw (misfit ls (some "word"))
    | some _ => throw (misfit ls none)
    | none =>
      match ls with
      | ⟨.word w, _⟩ :: ⟨.mark "(", line⟩ :: rest =>
        let rest ← expect ")" rest
        let name := ((Word.plain? w).map String.ofList).getD ""
        if !isName name || reservedNames.contains name then throw ⟨line, .badFunctionName⟩
        let (body, ls) ← commandFrom n (skipLines rest)
        return (.define name body, ls)
      | l :: _ =>
        let (s, rest) ← simpleFrom (ls.length + 1) false ls
        if s.assignments.isEmpty && s.words.isEmpty && s.redirects.isEmpty then
          throw (misfit ls none)
        return (.simple l.line s.assignments s.words s.redirects, rest)
      | [] => throw (misfit ls none)

/-- A choice after the word that opens it, up to the word that closes it. -/
def choiceFrom (bound : Nat) (ls : List Lexeme) : Reading (Command × List Lexeme) :=
  match bound with
  | 0 => .error (misfit ls none)
  | n + 1 => do
    let (condition, ls) ← listFrom n false ls
    let (yes, ls) ← listFrom n false (← expect "then" ls)
    match leadingKeyword? ls with
    | some "else" =>
      let (no, ls) ← listFrom n false (ls.drop 1)
      return (.choose condition yes no, ls)
    | some "elif" =>
      let (no, ls) ← choiceFrom n (ls.drop 1)
      return (.choose condition yes no, ls)
    | _ => return (.choose condition yes .skip, ls)

/-- A loop after the word that opens it, up to the word that closes it. -/
def loopFrom (bound : Nat) (expected : Bool) (ls : List Lexeme) :
    Reading (Command × List Lexeme) :=
  match bound with
  | 0 => .error (misfit ls none)
  | n + 1 => do
    let (condition, ls) ← listFrom n false ls
    let (body, ls) ← listFrom n false (← expect "do" ls)
    return (.loop expected condition body, ls)

/-- The arms of a selection up to the word that closes it. -/
def armsFrom (bound : Nat) (ls : List Lexeme) :
    Reading (List (List Word × Command) × List Lexeme) :=
  match bound with
  | 0 => .error (misfit ls none)
  | n + 1 => do
    if leadingKeyword? ls = some "esac" then return ([], ls)
    let (patterns, ls) ← patternsFrom (if leadingMark? ls = some "(" then ls.drop 1 else ls)
    let (body, ls) ← listFrom n true ls
    if leadingKeyword? ls = some "esac" then return ([(patterns, body)], ls)
    let (arms, ls) ← armsFrom n (skipLines (← expect ";;" ls))
    return ((patterns, body) :: arms, ls)

end

/-- The commands of one line, which the end of the line or of the script ends. -/
def lineFrom (bound : Nat) (ls : List Lexeme) : Reading (Command × List Lexeme) :=
  match bound with
  | 0 => .error (misfit ls none)
  | n + 1 => do
    let (first, ls) ← chainFrom (8 * (ls.length + 2)) ls
    let mark := leadingMark? ls
    let first := if mark = some "&" then first.background else first
    if finished ls then return (first, ls)
    else if mark = some "\n" then return (first, ls.drop 1)
    else if mark = some ";" || mark = some "&" then
      let ls := ls.drop 1
      if finished ls then return (first, ls)
      else if leadingMark? ls = some "\n" then return (first, ls.drop 1)
      else
        let (rest, ls) ← lineFrom n ls
        return (first.andThen rest, ls)
    else throw (misfit ls none)

/-- A script: the commands of the lines before its first fault, and that fault. -/
structure Script where
  commands : List Command
  misread : Option Misread

/-- Reads the lines of a script from its tokens; `bound` is more than their number. -/
def scriptFrom (bound : Nat) (ls : List Lexeme) : Script :=
  match bound with
  | 0 => ⟨[], none⟩
  | n + 1 =>
    let ls := skipLines ls
    if finished ls then ⟨[], none⟩
    else match lineFrom (ls.length + 1) ls with
      | .error e => ⟨[], some e⟩
      | .ok (c, rest) =>
        let more := scriptFrom n rest
        ⟨c :: more.commands, more.misread⟩

/-- Reads a script. -/
def Script.read (source : List Char) : Script :=
  let ls := lexemes source
  scriptFrom (ls.length + 1) ls

end Provision.Shell
