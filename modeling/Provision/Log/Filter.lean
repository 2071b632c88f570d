import Provision.Action
import Provision.Text.Blank
import Provision.Text.Letters
import Provision.Text.Pieces
import Provision.Text.Quoted

/-!
# Which messages are shown

A filter is a list of rules, each of which says down to which level the messages are shown that it
concerns. Of the rules that concern a message the most specific one decides (`Filter.decisive?`),
and a message that no rule concerns is not shown.

A filter is chosen by how often the operator asked for more, unless the environment has one
(`Filter.ofText?`): rules with commas between them, each a level, a target, or a target with a
level. A target is the beginning of the names of the parts it is about. A rule may ask for a named
value, and for a span of the work; there are no spans here, so a rule that asks for one shows
nothing. A filter with a rule that cannot be read is none at all.
-/

namespace Provision.Log

/-- A rule of a filter: which messages it concerns, and the last level that it shows. -/
structure Rule where
  target : Option String
  field : Option String
  inSpan : Bool
  level : Option Level
  deriving Repr, DecidableEq

/-- The level of a name or a number; the outer option is absent if there is no such level, the
inner one if nothing is to be shown. -/
def levelOfName? (cs : List Char) : Option (Option Level) :=
  let digits := if cs.head? = some '+' then cs.drop 1 else cs
  if !digits.isEmpty && digits.all Char.isDigit then
    match digits.dropWhile (· = '0') with
    | [] => some none
    | ['1'] => some (some .error)
    | ['2'] => some (some .warn)
    | ['3'] => some (some .info)
    | ['4'] => some (some .debug)
    | ['5'] => some (some .trace)
    | _ => none
  else
    let name := String.ofList cs
    if Text.sameLetters name "off" then some none
    else ([.error, .warn, .info, .debug, .trace].find? fun l : Level =>
      Text.sameLetters name l.name).map some

namespace Rule

/-- A rule with a target and whatever may follow it. -/
def about (target : List Char) (level : Option Level) : Rule :=
  ⟨if target.isEmpty then none else some (String.ofList target), none, false, level⟩

/-- Reads what follows the target of a rule: an equals sign and a level, which is the last one if
nothing is there. -/
def readLevel? : List Char → Option (Option Level)
  | [] => some (some .trace)
  | '=' :: [] => some (some .trace)
  | '=' :: cs => levelOfName? cs
  | _ => none

/-- Reads a span after its opening bracket, and the level after it. -/
def readSpan? (rule : Rule) (cs : List Char) : Option Rule := do
  let name := cs.takeWhile fun c => c ≠ ']' && c ≠ '\x7b'
  match cs.drop name.length with
  | ']' :: rest => return { rule with inSpan := true, level := ← readLevel? rest }
  | '\x7b' :: rest =>
    let field := rest.takeWhile (· ≠ '\x7d')
    if field.isEmpty then none
    match rest.drop field.length with
    | '\x7d' :: ']' :: rest =>
      let within := !name.isEmpty || field.contains '='
      return { rule with
        field := some (String.ofList field), inSpan := within, level := ← readLevel? rest }
    | _ => none
  | _ => none

/-- Whether a rule may begin with a character. -/
def mayBegin (c : Char) : Bool :=
  ['[', '-', ':', '_'].contains c || Text.isIn (Unicode.property? "alphabetic") c ||
    Text.isIn (Unicode.category? "n") c

/-- Reads a rule. What is neither cut by an equals sign nor by a bracket is a level, or else a
target all of whose messages are shown. -/
def ofText? (cs : List Char) : Option Rule := do
  let begun := cs.dropWhile Text.isSpace
  if !begun.head?.any mayBegin then none
  let target := begun.takeWhile fun c => c ≠ '=' && c ≠ '['
  match begun.drop target.length with
  | [] =>
    match levelOfName? cs with
    | some level => return about [] level
    | none => return about cs (some .trace)
  | '[' :: rest => readSpan? (about target none) rest
  | rest =>
    -- Blanks before a target move the place of its level, where none is found then.
    if begun.length < cs.length then none
    return about target (← readLevel? rest)

/-- Whether a rule concerns a message. -/
def concerns (r : Rule) (m : Message) : Bool :=
  !r.inSpan && r.target.all (fun t => Text.startsWith t.toList m.part.name.toList) &&
    r.field.all fun f => f = "message" || m.fields.any (·.1 = f)

/-- How specific a rule is: the length of its target counts first, then whether it asks for a
value. -/
def specificity (r : Rule) : Nat :=
  2 * (r.target.map fun t => t.utf8ByteSize + 1).getD 0 + (if r.field.isSome then 1 else 0)

/-- Whether a rule shows messages of a level. -/
def shows (r : Rule) (level : Level) : Bool := r.level.any fun l => level.rank ≤ l.rank

end Rule

/-- Rules for which messages are shown. -/
structure Filter where
  rules : List Rule
  deriving Repr, DecidableEq

namespace Filter

/-- The filter that shows messages down to a level. -/
def downTo (level : Level) : Filter := ⟨[.about [] (some level)]⟩

/-- The more specific of two rules; of two that are as specific, the later one. -/
def preferred (r : Option Rule) (s : Rule) : Option Rule :=
  match r with
  | none => some s
  | some r => some (if r.specificity ≤ s.specificity then s else r)

/-- The rule that decides about a message. -/
def decisive? (f : Filter) (m : Message) : Option Rule :=
  (f.rules.filter (·.concerns m)).foldl preferred none

/-- Whether a message is shown. -/
def shows (f : Filter) (m : Message) : Bool := (f.decisive? m).any (·.shows m.level)

/-- The filter of a text; a text without rules shows errors. -/
def ofText? (s : String) : Option Filter := do
  let rules ← ((Text.splitAt ',' s.toList).filter (!·.isEmpty)).mapM Rule.ofText?
  return if rules.isEmpty then downTo .error else ⟨rules⟩

/-- The filter for an operator who asked so often for more. -/
def ofVerbosity : Nat → Filter
  | 0 => downTo .info
  | 1 => downTo .debug
  | _ => downTo .trace

/-- The name of the variable that holds a filter. -/
def variableName : String := "RUST_LOG"

/-- The filter of a run: that of the environment if it has one that can be read. -/
def chosen (given : Option String) (verbosity : Nat) : Filter :=
  (given.bind ofText?).getD (ofVerbosity verbosity)

end Filter

end Provision.Log
