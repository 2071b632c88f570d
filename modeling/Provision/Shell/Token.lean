import Provision.Shell.Word

/-!
# Tokens of shell commands

The text of a script is cut into words, marks between commands, and signs of redirections. Each
`Lexeme` has the line at which its token was complete, because the shell tells lines in its
messages. A document that a redirection announces stands after the end of the line; its text is
found there and goes into the token. Tokens after a fault are not read: the fault is the last one,
so that commands before it can run.
-/

namespace Provision.Shell

/-- A token of a script. -/
inductive Token where
  | word (w : Word)
  | mark (text : String)
  | redirect (stream : Nat) (sign : String)
  | document (stream : Nat) (body : Word)
  | fault (f : Fault)
  | finish
  deriving Inhabited

/-- A token and the line where it was complete. -/
structure Lexeme where
  token : Token
  line : Nat
  deriving Inhabited

/-- The words with a meaning of their own where a command may begin. -/
def keywords : List String :=
  ["!", "case", "do", "done", "elif", "else", "esac", "fi", "for", "if", "in", "then", "until",
    "while", "\x7b", "\x7d"]

/-- The word with a meaning of its own that a token is. -/
def Token.keyword? : Token → Option String
  | .word w => ((Word.plain? w).map String.ofList).filter keywords.contains
  | _ => none

/-- How a token is named in a message. -/
def Token.name (t : Token) : String :=
  match t with
  | .word _ => match t.keyword? with
    | some k => "\"" ++ k ++ "\""
    | none => "word"
  | .mark "\n" => "newline"
  | .mark m => "\"" ++ m ++ "\""
  | .redirect _ _ => "redirection"
  | .document _ _ => "redirection"
  | .fault _ => "fault"
  | .finish => "end of file"

/-- The marks that separate commands, longer ones first. -/
def marks : List String := [";;", "&&", "||", ";", "&", "|", "(", ")"]

/-- The signs of redirections, longer ones first. -/
def signs : List String := ["<<-", "<<", ">>", ">&", ">|", "<&", ">", "<"]

/-- The first of some texts that another text begins with, and the rest. -/
def firstStart (texts : List String) (cs : List Char) : Option (String × List Char) :=
  texts.findSome? fun t => (Text.afterStart t.toList cs).map fun rest => (t, rest)

/-- How many lines end in a text that a longer text begins with; `rest` follows it there. -/
def linesBefore (rest cs : List Char) : Nat :=
  (cs.take (cs.length - rest.length)).count '\n'

/-- A document that was announced: the line that ends it, whether tabs at the beginning of lines
are left out, and whether variables mean something. -/
structure Announced where
  stop : List Char
  strips : Bool
  expands : Bool

/-- The text of a document and what follows it. A script may end before the document. -/
def documentFrom (bound : Nat) (a : Announced) (cs : List Char) : List Char × List Char :=
  match bound with
  | 0 => ([], cs)
  | n + 1 =>
    if cs.isEmpty then ([], [])
    else
      let whole := cs.takeWhile (· != '\n')
      let rest := cs.drop (whole.length + 1)
      let line := if a.strips then whole.dropWhile (· == '\t') else whole
      if line = a.stop then ([], rest)
      else
        let (more, rest) := documentFrom n a rest
        (line ++ '\n' :: more, rest)

/-- The documents that were announced on a line, in order, and what follows them. -/
def documentsFrom (cs : List Char) : List Announced → Except Fault (List Word × List Char)
  | [] => .ok ([], cs)
  | a :: rest => do
    let (text, cs) := documentFrom (cs.length + 1) a cs
    let body ← if a.expands then Word.ofDocument text else pure [.text text true]
    let (bodies, cs) ← documentsFrom cs rest
    return (body :: bodies, cs)

/-- The sign of a redirection at the beginning of a text, with the number of its stream if one
stands before it. -/
def sign? (cs : List Char) : Option (Option Nat × String × List Char) :=
  let numbered := match cs with
    | d :: rest => if d.isDigit then
        (firstStart signs rest).map fun (s, rest) => (some (d.toNat - '0'.toNat), s, rest)
      else none
    | [] => none
  numbered <|> (firstStart signs cs).map fun (s, rest) => (none, s, rest)

/-- The tokens of a text that begins at a line, and the documents found at the end of that line.
`pending` are the documents announced so far; `bound` is more than the length of the text. -/
def lexemesFrom (bound line : Nat) (pending : List Announced) (cs : List Char) :
    List Lexeme × List Word :=
  match bound with
  | 0 => ([⟨.finish, line⟩], [])
  | n + 1 =>
    let token (t : Token) (line : Nat) (cs : List Char) : List Lexeme × List Word :=
      let (ls, bodies) := lexemesFrom n line pending cs
      (⟨t, line⟩ :: ls, bodies)
    match cs with
    | [] => ([⟨.finish, line⟩], [])
    | ' ' :: cs => lexemesFrom n line pending cs
    | '\t' :: cs => lexemesFrom n line pending cs
    | '\\' :: '\n' :: cs => lexemesFrom n (line + 1) pending cs
    | '#' :: cs => lexemesFrom n line pending (cs.dropWhile (· != '\n'))
    | '\n' :: cs =>
      match documentsFrom cs pending with
      | .error f => ([⟨.fault f, line + 1⟩], [])
      | .ok (bodies, rest) =>
        let (ls, _) := lexemesFrom n (line + 1 + linesBefore rest cs) [] rest
        (⟨.mark "\n", line + 1⟩ :: ls, bodies)
    | _ =>
      match firstStart marks cs with
      | some (m, cs) => token (.mark m) line cs
      | none =>
        match sign? cs with
        | some (stream, s, rest) =>
          let stream := stream.getD (if s.toList.head? = some '<' then 0 else 1)
          let blank (c : Char) : Bool := c == ' ' || c == '\t'
          match s == "<<" || s == "<<-", Word.read (rest.dropWhile blank) with
          | true, .ok (w@(_ :: _), rest) =>
            let (stop, quoted) := Word.literal w
            let (ls, bodies) :=
              lexemesFrom n line (pending ++ [⟨stop, s == "<<-", !quoted⟩]) rest
            (⟨.document stream (bodies[pending.length]?.getD []), line⟩ :: ls, bodies)
          | _, _ => token (.redirect stream s) line rest
        | none =>
          match Word.read cs with
          | .error f => ([⟨.fault f, line + cs.count '\n'⟩], [])
          | .ok (w, rest) => token (.word w) (line + linesBefore rest cs) rest

/-- The tokens of a script. -/
def lexemes (cs : List Char) : List Lexeme := (lexemesFrom (cs.length + 1) 1 [] cs).1

end Provision.Shell
