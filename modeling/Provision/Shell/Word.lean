import Provision.Text.Pieces

/-!
# Words of shell commands

A word is a row of parts: text as it stands, the value of a variable, the output of a command, the
value of a sum, or the home folder. Parts in quotes stay as they are; the others are cut at blanks
when the word is expanded. `Word.read` takes the parts of one word off the beginning of a text, and
`Word.ofDocument` reads a whole text in which quotes mean nothing.
-/

namespace Provision.Shell

/-- Why the text of a command cannot be read. -/
inductive Fault where
  | openQuote | openBackquote | openBraces | openSum | badSubstitution
  | badLoopName | badFunctionName
  | unexpected (found : String) (expected : Option String)
  deriving Repr, DecidableEq

/-- What the shell says about a fault. -/
def Fault.message : Fault → String
  | openQuote => "Syntax error: Unterminated quoted string"
  | openBackquote => "Syntax error: EOF in backquote substitution"
  | openBraces => "Syntax error: Missing '\x7d'"
  | openSum => "Syntax error: Missing '))'"
  | badSubstitution => "Bad substitution"
  | badLoopName => "Syntax error: Bad for loop variable"
  | badFunctionName => "Syntax error: Bad function name"
  | unexpected found none => "Syntax error: " ++ found ++ " unexpected"
  | unexpected found (some e) =>
    "Syntax error: " ++ found ++ " unexpected (expecting \"" ++ e ++ "\")"

/-- What is made of a variable: its value or the length of it; another word if it has no value,
which may also become its value or be an error message, or if it has one; and its value without the
shortest or longest part that a pattern describes, at the end or the start. -/
inductive Choice where
  | value | length
  | unless | assigned | demanded | instead
  | withoutEnd (longest : Bool)
  | withoutStart (longest : Bool)
  deriving DecidableEq

/-- A part of a word. `emptyToo` makes an empty variable count as one without a value. -/
inductive Part where
  | text (cs : List Char) (quoted : Bool)
  | variable (name : String) (choice : Choice) (emptyToo : Bool) (other : List Part)
      (quoted : Bool)
  | output (source : List Char) (quoted : Bool)
  | sum (source : List Part)
  | home
  deriving Inhabited

/-- A word. -/
abbrev Word := List Part

/-- Where a part stands: in a bare word, in double quotes, in the braces of a variable, or in a
text in which quotes mean nothing. -/
inductive Place where
  | bare | quotes | braces (quoted : Bool) | document
  deriving DecidableEq

/-- Whether parts that stand here are quoted. -/
def Place.quoted : Place → Bool
  | .bare => false
  | .quotes => true
  | .braces q => q
  | .document => true

/-- The characters that a backslash keeps from having a meaning, where parts are quoted. -/
def Place.escapable : Place → List Char
  | .document => "$\\\x60".toList
  | _ => "$\"\\\x60\x7d".toList

/-- The fault of a place that does not end. -/
def Place.fault : Place → Fault
  | .braces _ => .openBraces
  | _ => .openQuote

/-- The characters that end a bare word. -/
def endsBareWord (c : Char) : Bool := " \t\n;&|()<>".toList.contains c

/-- The characters of a name. -/
def isNameChar (c : Char) : Bool := c.isAlphanum || c == '_'

/-- Whether a text is the name of a variable. -/
def isName (name : String) : Bool :=
  match name.toList with
  | [] => false
  | c :: cs => isNameChar c && !c.isDigit && cs.all isNameChar

/-- The characters that name a variable alone. -/
def isSpecialName (c : Char) : Bool := "?#$@*!-".toList.contains c || c.isDigit

/-- The text up to the parenthesis that closes an open one, and what follows it. Quotes hide
parentheses. -/
def untilClosed (depth : Nat) (quote : Option Char) (read : List Char) :
    List Char → Option (List Char × List Char)
  | [] => none
  | '\\' :: c :: cs => untilClosed depth quote (c :: '\\' :: read) cs
  | c :: cs =>
    match quote with
    | some q => untilClosed depth (if c == q then none else quote) (c :: read) cs
    | none =>
      if c == ')' then
        match depth with
        | 0 => some (read.reverse, cs)
        | d + 1 => untilClosed d none (c :: read) cs
      else if c == '(' then untilClosed (depth + 1) none (c :: read) cs
      else untilClosed depth (if c == '\'' || c == '"' then some c else none) (c :: read) cs

/-- The text up to a backquote, and what follows it. -/
def untilBackquote (read : List Char) : List Char → Option (List Char × List Char)
  | [] => none
  | '\\' :: c :: cs =>
    let marked := c == '\x60' || c == '\\'
    untilBackquote (if marked then c :: read else c :: '\\' :: read) cs
  | c :: cs => if c == '\x60' then some (read.reverse, cs) else untilBackquote (c :: read) cs

/-- What the signs after the name of a variable ask for. -/
def choice? : List Char → Option (Bool × Choice × List Char)
  | ':' :: '-' :: cs => some (true, .unless, cs)
  | ':' :: '=' :: cs => some (true, .assigned, cs)
  | ':' :: '?' :: cs => some (true, .demanded, cs)
  | ':' :: '+' :: cs => some (true, .instead, cs)
  | '-' :: cs => some (false, .unless, cs)
  | '=' :: cs => some (false, .assigned, cs)
  | '?' :: cs => some (false, .demanded, cs)
  | '+' :: cs => some (false, .instead, cs)
  | '%' :: '%' :: cs => some (false, .withoutEnd true, cs)
  | '%' :: cs => some (false, .withoutEnd false, cs)
  | '#' :: '#' :: cs => some (false, .withoutStart true, cs)
  | '#' :: cs => some (false, .withoutStart false, cs)
  | _ => none

/-- The name of a variable at the beginning of a text. -/
def variableName (cs : List Char) : List Char :=
  match cs with
  | c :: _ =>
    if c.isDigit then cs.takeWhile Char.isDigit
    else if isSpecialName c then [c] else cs.takeWhile isNameChar
  | [] => []

/-- The parts of a section in double quotes. All arguments of a command stay apart there, and are
nothing if there are none; any other section is a field even when it is empty. -/
def quotedSection (ps : Word) : Word :=
  match ps with
  | [.variable "@" .value _ _ _] => ps
  | _ => .text [] true :: ps

/-- Takes parts off the beginning of a text, up to where their place ends; `bound` is more than
the length of the text. -/
def partsFrom (bound : Nat) (place : Place) (cs : List Char) : Except Fault (Word × List Char) :=
  match bound with
  | 0 => .error place.fault
  | n + 1 =>
    let more (p : Word) (cs : List Char) : Except Fault (Word × List Char) := do
      let (ps, cs) ← partsFrom n place cs
      return (p ++ ps, cs)
    let q := place.quoted
    match cs with
    | [] => if place = .bare || place = .document then .ok ([], []) else .error place.fault
    | '\\' :: '\n' :: cs => more [] cs
    | '\\' :: c :: cs =>
      if q && !(place.escapable.contains c) then more [.text ['\\', c] true] cs
      else more [.text [c] true] cs
    | '\'' :: rest =>
      if q then more [.text ['\''] q] rest
      else
        let inner := rest.takeWhile (· != '\'')
        match rest.drop inner.length with
        | _ :: cs => more [.text inner true] cs
        | [] => .error .openQuote
    | '"' :: rest =>
      if place = .quotes then .ok ([], '"' :: rest)
      else if place = .document then more [.text ['"'] q] rest
      else do
        let (ps, cs) ← partsFrom n .quotes rest
        more (quotedSection ps) (cs.drop 1)
    | '$' :: '(' :: '(' :: rest =>
      match untilClosed 0 none [] rest with
      | some (source, ')' :: cs) => do
        let (ps, _) ← partsFrom n .document source
        more [.sum ps] cs
      | _ => .error .openSum
    | '$' :: '(' :: rest =>
      match untilClosed 0 none [] rest with
      | some (source, cs) => more [.output source q] cs
      | none => .error (.unexpected "end of file" (some ")"))
    | '$' :: '\x7b' :: rest =>
      let (counted, rest) := match rest with
        | '#' :: c :: more => if c == '\x7d' then (false, rest) else (true, c :: more)
        | _ => (false, rest)
      let name := variableName rest
      let after := rest.drop name.length
      match choice? after with
      | some (emptyToo, choice, cs) =>
        if name.isEmpty then .error .badSubstitution
        else do
          let (ps, cs) ← partsFrom n (.braces q) cs
          more [.variable (String.ofList name) choice emptyToo ps q] (cs.drop 1)
      | none =>
        match after with
        | '\x7d' :: cs =>
          if name.isEmpty then .error .badSubstitution
          else
            let choice : Choice := if counted then .length else .value
            more [.variable (String.ofList name) choice false [] q] cs
        | [] => .error .openBraces
        | c :: _ => .error (if c == '\n' then .openBraces else .badSubstitution)
    | '$' :: c :: rest =>
      if isSpecialName c then more [.variable (String.singleton c) .value false [] q] rest
      else
        let name := (c :: rest).takeWhile isNameChar
        if name.isEmpty then more [.text ['$'] q] (c :: rest)
        else more [.variable (String.ofList name) .value false [] q] ((c :: rest).drop name.length)
    | c :: rest =>
      if c == '\x60' then
        match untilBackquote [] rest with
        | some (source, cs) => more [.output source q] cs
        | none => .error .openBackquote
      else if c == '\x7d' && (place = .braces true || place = .braces false) then
        .ok ([], c :: rest)
      else if place = .bare && endsBareWord c then .ok ([], c :: rest)
      else more [.text [c] q] rest

/-- A word in which a tilde before a slash, or alone, is the home folder. -/
def Word.withHome : Word → Word
  | [.text ['~'] false] => [.home]
  | .text ['~'] false :: .text ['/'] false :: rest => .home :: .text ['/'] false :: rest
  | w => w

/-- Takes one word off the beginning of a text. -/
def Word.read (cs : List Char) : Except Fault (Word × List Char) := do
  let (w, rest) ← partsFrom (cs.length + 1) .bare cs
  return (w.withHome, rest)

/-- A text in which quotes mean nothing, as one word. -/
def Word.ofDocument (cs : List Char) : Except Fault Word := do
  return (← partsFrom (cs.length + 1) .document cs).1

/-- The text of a word that is nothing but text without quotes. -/
def Word.plain? : Word → Option (List Char)
  | [] => some []
  | .text cs false :: rest => (Word.plain? rest).map (cs ++ ·)
  | _ => none

/-- The text of a word as it stands, and whether some of it is quoted. -/
def Word.literal : Word → List Char × Bool
  | [] => ([], false)
  | .text cs quoted :: rest =>
    let (more, q) := Word.literal rest
    (cs ++ more, quoted || q)
  | _ :: rest => Word.literal rest

end Provision.Shell
