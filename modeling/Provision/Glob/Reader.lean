import Provision.Glob.Basic

/-!
# Reading globs

The form of a glob: `*` and `$` stand for any characters of a name, `?` for one, `**` between
slashes for any names, brackets for a class, braces for a choice, angle brackets for a repetition
with bounds after a colon. `(?i)` and `(?-i)` say whether the texts after them ignore case. A text
that has none of these forms throughout is no glob.
-/

namespace Provision.Glob

/-- The characters that no text holds. -/
def isSpecial (c : Char) : Bool := "/?*$:<>()[]\x7b\x7d,\\".toList.contains c

/-- The characters that no class holds. -/
def isClassSpecial (c : Char) : Bool := "[]-\\".toList.contains c

/-- The switches of one group, up to its parenthesis; the last one counts. -/
def switches (last : Option Bool) : List Char → Option (Bool × List Char)
  | 'i' :: cs => switches (some true) cs
  | '-' :: 'i' :: cs => switches (some false) cs
  | ')' :: cs => last.map fun b => (b, cs)
  | _ => none

/-- The groups of switches at the beginning of a text; `bound` is more than its length. -/
def switchGroups (bound : Nat) (ignoreCase : Bool) (cs : List Char) : Bool × List Char :=
  match bound, cs with
  | n + 1, '(' :: '?' :: rest =>
    match switches none rest with
    | some (b, rest) => switchGroups n b rest
    | none => (ignoreCase, cs)
  | _, _ => (ignoreCase, cs)

/-- The members of a class, up to its bracket. -/
def spansFrom : List Char → Option (List Span × List Char)
  | ']' :: cs => some ([], cs)
  | a :: '-' :: b :: cs =>
    if isClassSpecial a || isClassSpecial b then none
    else (spansFrom cs).map fun (spans, cs) => (⟨a, b⟩ :: spans, cs)
  | a :: cs =>
    if isClassSpecial a then none
    else (spansFrom cs).map fun (spans, cs) => (⟨a, a⟩ :: spans, cs)
  | [] => none

/-- A class after its opening bracket. -/
def classFrom (cs : List Char) : Option (Token × List Char) :=
  let (negated, cs) := match cs with
    | '!' :: cs => (true, cs)
    | cs => (false, cs)
  match spansFrom cs with
  | some (s :: spans, cs) => some (.oneOf negated (s :: spans), cs)
  | _ => none

/-- A number at the beginning of a text, if there is one. -/
def numberFrom (cs : List Char) : Option Nat × List Char :=
  let digits := cs.takeWhile Char.isDigit
  ((String.ofList digits).toNat?, cs.drop digits.length)

/-- The bounds of a repetition, up to its closing bracket. -/
def boundsFrom : List Char → Option (Nat × Option Nat × List Char)
  | '>' :: cs => some (0, none, cs)
  | ':' :: cs =>
    match numberFrom cs with
    | (none, '>' :: cs) => some (1, none, cs)
    | (some n, '>' :: cs) => some (n, some n, cs)
    | (some n, ',' :: cs) =>
      match numberFrom cs with
      | (most, '>' :: cs) => some (n, most, cs)
      | _ => none
    | _ => none
  | _ => none

/-- Whether any characters may follow a token for any number of them. -/
def mayFollowMany (cs : List Char) : Bool :=
  match (switchGroups cs.length false cs).2 with
  | [] => cs.isEmpty
  | c :: _ => c != '*' && c != '$'

/-- Whether a glob ends here: at the end of the text, or at a character that closes it. -/
def atEnd (closers : List Char) : List Char → Bool
  | [] => closers.isEmpty
  | c :: _ => closers.contains c

/-- The rest of a tree after its stars: a slash, or the end of the glob. -/
def afterTree (closers : List Char) : List Char → Option (List Char)
  | '/' :: cs => some cs
  | cs => if atEnd closers cs then some cs else none

/-- A wildcard at the beginning of a text; `first` says that the glob begins here. -/
def wildcardFrom (closers : List Char) (first : Bool) (cs : List Char) :
    Option (Token × List Char) :=
  let tree? : Option (Token × List Char) :=
    match cs with
    | '/' :: '*' :: '*' :: rest => (afterTree closers rest).map (Token.tree true, ·)
    | '*' :: '*' :: rest =>
      if first then (afterTree closers rest).map (Token.tree false, ·) else none
    | _ => none
  let single? : Option (Token × List Char) :=
    match cs with
    | '?' :: rest => some (.one, rest)
    | '*' :: rest => if mayFollowMany rest then some (.many, rest) else none
    | '$' :: rest => if mayFollowMany rest then some (.many, rest) else none
    | _ => none
  tree? <|> single?

mutual

/-- The tokens of a glob as far as they go. The state is whether case is ignored; `bound` is more
than twice the length of the text. -/
def tokensFrom (bound : Nat) (closers : List Char) (first ignoreCase : Bool) (cs : List Char) :
    List Token × Bool × List Char :=
  match bound with
  | 0 => ([], ignoreCase, cs)
  | n + 1 =>
    match tokenFrom n closers first (switchGroups cs.length ignoreCase cs) with
    | none => ([], ignoreCase, cs)
    | some (t, ignoreCase, rest) =>
      let (ts, ignoreCase, rest) := tokensFrom n closers false ignoreCase rest
      (t :: ts, ignoreCase, rest)

/-- One token. -/
def tokenFrom (bound : Nat) (closers : List Char) (first : Bool) :
    Bool × List Char → Option (Token × Bool × List Char)
  | (ignoreCase, cs) =>
    match bound with
    | 0 => none
    | n + 1 =>
      let text := cs.takeWhile fun c => !isSpecial c
      if !text.isEmpty then some (.literal text ignoreCase, ignoreCase, cs.drop text.length)
      else match cs with
        | '<' :: rest =>
          match tokensFrom n [':', '>'] true ignoreCase rest with
          | ([], _, _) => none
          | (body, ignoreCase, rest) =>
            (boundsFrom rest).map fun (least, most, rest) =>
              (.repeated body least most, ignoreCase, rest)
        | '\x7b' :: rest =>
          (branchesFrom n ignoreCase rest).map fun (branches, ignoreCase, rest) =>
            (.choice branches, ignoreCase, rest)
        | '[' :: rest => (classFrom rest).map fun (t, rest) => (t, ignoreCase, rest)
        | _ =>
          match wildcardFrom closers first cs, cs with
          | some (t, rest), _ => some (t, ignoreCase, rest)
          | none, '/' :: rest => some (.slash, ignoreCase, rest)
          | none, _ => none

/-- The branches of a choice, up to its closing brace. -/
def branchesFrom (bound : Nat) (ignoreCase : Bool) (cs : List Char) :
    Option (List (List Token) × Bool × List Char) :=
  match bound with
  | 0 => none
  | n + 1 =>
    match tokensFrom n [',', '\x7d'] true ignoreCase cs with
    | ([], _, _) => none
    | (branch, ignoreCase, ',' :: rest) =>
      (branchesFrom n ignoreCase rest).map fun (branches, ignoreCase, rest) =>
        (branch :: branches, ignoreCase, rest)
    | (branch, ignoreCase, '\x7d' :: rest) => some ([branch], ignoreCase, rest)
    | _ => none

end

/-- The tokens of a text that is a glob throughout. -/
def tokens? (cs : List Char) : Option (List Token) :=
  match tokensFrom (2 * cs.length + 2) [] true false cs with
  | ([], _, _) => if cs.isEmpty then some [] else none
  | (ts, _, []) => some ts
  | _ => none

end Provision.Glob
