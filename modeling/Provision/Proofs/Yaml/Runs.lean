import Provision.Proofs.Yaml.Scanning
import Mathlib.Logic.Relation

/-!
# Scalars and keys are read back

Reading goes from token to token (`Steps`); between two tokens it is at the sign of the next one,
and what is open up to there is closed. A text is read where it stands as a node, up to the line
below it (`steps_text`), and a key up to what stands behind its colon (`steps_key`), so that a tree
is read by reading one after the other.
-/

namespace Provision.Yaml

/-- The state behind a sign or a key, where a node is read next. -/
def Scanner.after (position : Position) (cs : List Char) (p : Place) (l : Levels) : Scanner :=
  .block cs p l (position == .afterIndicator) none

namespace Scan

/-! ## Runs -/

/-- One token is read, and what stands before the next one is skipped. -/
def Step (x y : Scanner) : Prop :=
  (∃ s, token x = .ok (true, s) ∧ settle s = .ok ((), y)) ∧
    y.cursor.rest.length < x.cursor.rest.length

/-- Tokens are read one after the other. -/
abbrev Steps : Scanner → Scanner → Prop := Relation.ReflTransGen Step

/-- What stands before a token is skipped, then tokens are read. -/
def Leads (s y : Scanner) : Prop :=
  ∃ x, settle s = .ok ((), x) ∧ x.cursor.rest.length ≤ s.cursor.rest.length ∧ Steps x y

/-- Reading arrives at the next token, in a column; collections that are deeper are closed. -/
def Arrives (leads : Scanner → Prop) (n : Nat) (cs : List Char) (l : Levels) : Prop :=
  ∃ p : Place, p.column = n ∧ leads (.block cs p (l.close p.column) true none)

/-- What is led to leads on to what is read after it. -/
theorem Leads.trans {s x y : Scanner} (h : Leads s x) (hxy : Steps x y) : Leads s y := by
  obtain ⟨x', hsettle, hlength, hsteps⟩ := h
  exact ⟨x', hsettle, hlength, hsteps.trans hxy⟩

/-- A token is read before what is read after it. -/
theorem Leads.token {s x y : Scanner} (h : Leads s y) (htoken : token x = .ok (true, s))
    (hlength : s.cursor.rest.length < x.cursor.rest.length) : Steps x y := by
  obtain ⟨x', hsettle, hle, hsteps⟩ := h
  exact hsteps.head ⟨⟨s, htoken, hsettle⟩, Nat.lt_of_le_of_lt hle hlength⟩

/-- Reading goes through all tokens up to the end of the text. -/
theorem all_of_steps {x y z : Scanner} (h : Steps x y) (hend : Scan.token y = .ok (false, z)) :
    ∀ {s : Scanner} {bound : Nat}, settle s = .ok ((), x) → x.cursor.rest.length < bound →
      all bound s = .ok ((), z) := by
  induction h using Relation.ReflTransGen.head_induction_on with
  | refl =>
    intro s bound hs hb
    obtain ⟨n, rfl⟩ := Nat.exists_eq_add_of_le' (Nat.one_le_of_lt hb)
    rw [all, bind_ok ((next_of_settle hs).trans hend)]
    rfl
  | head hstep _ ih =>
    intro s bound hs hb
    -- a step leaves less to read, so what is left of the bound is enough for the rest
    obtain ⟨⟨s', htoken, hsettle⟩, hlength⟩ := hstep
    obtain ⟨n, rfl⟩ := Nat.exists_eq_add_of_le' (Nat.one_le_of_lt hb)
    rw [all, bind_ok ((next_of_settle hs).trans htoken)]
    exact ih hsettle (by omega)

variable {cs : List Char} {p : Place} {l : Levels} {allowed : Bool} {key : Option KeyStart}

/-- Spaces before a token are skipped. -/
theorem Leads.spaces (h : Opens cs) (n : Nat) {y : Scanner}
    (hy : Steps (.block cs (p.plus n) (l.close (p.plus n).column) allowed none) y) :
    Leads (.block (spaces n ++ cs) p l allowed none) y :=
  ⟨_, settle_spaces h n, by simp, hy⟩

/-- A line feed and the spaces after it are skipped. -/
theorem Leads.newline (h : Opens cs) (n : Nat) (hkey : Stale key (p.line + 1)) {y : Scanner}
    (hy : Steps (.block cs (p.newline.plus n) (l.close (p.newline.plus n).column) true none) y) :
    Leads (.block ('\n' :: (Yaml.spaces n ++ cs)) p l allowed key) y :=
  ⟨_, settle_newline h n hkey, by simp; omega, hy⟩

/-- Before a token nothing needs to be skipped. -/
theorem Leads.here (h : Opens cs) (hkey : Stale key p.line) {y : Scanner}
    (hy : Steps (.block cs p (l.close p.column) allowed none) y) :
    Leads (.block cs p l allowed key) y :=
  ⟨_, settle_here h hkey, Nat.le_refl _, hy⟩

/-! ## Scalars -/

/-- What a text allows, by the style it is written in. -/
inductive Allows : Style → List Char → Prop
  | plain {c : Char} {w : List Char} (h : Plain c w) : Allows .plain (c :: w)
  | singleQuoted {cs : List Char} (h : AllowsQuotes cs) : Allows .singleQuoted cs
  | doubleQuoted {cs : List Char} : Allows .doubleQuoted cs
  | literal {cs : List Char} (hn : '\n' ∈ cs) (h : AllowsBlock cs) : Allows .literal cs

/-- A text allows for the style in which it is written. -/
theorem allows_styleOf (s : String) : Allows (styleOf s) s.toList := by
  unfold styleOf
  dsimp only
  split
  · next hn =>
    split
    · next h => exact .literal (by simpa using hn) (.of_allowsLiteral h)
    · exact .doubleQuoted
  · next hn =>
    split
    · next h =>
      obtain ⟨htext, hplain⟩ := Bool.and_eq_true_iff.1 h
      cases hs : s.toList with
      | nil =>
        rw [String.toList_eq_nil_iff.1 hs] at htext
        exact absurd htext (by decide)
      | cons c w => exact .plain (.of_allowsPlain (hs ▸ hplain))
    · split
      · next h => exact .singleQuoted (.of_allowsSingleQuotes h (by simpa using hn))
      · exact .doubleQuoted

/-- What follows a node: a line that is not deeper than an indentation, or the end of the text. -/
structure Below (indent : Int) (rest : List Char) (n : Nat) (cs : List Char) : Prop where
  rest_eq : rest = spaces n ++ cs
  opens : Opens cs
  shallow : cs = [] ∧ n = 0 ∨ (n : Int) ≤ indent

/-- What is below a block follows the lines of a literal block in it. -/
theorem Below.follows {indent : Int} {rest : List Char} {n : Nat} (h : Below indent rest n cs) :
    Follows (blockColumn indent) rest n cs where
  rest_eq := h.rest_eq
  shallow := by
    unfold blockColumn
    obtain ⟨-, rfl⟩ | hn := h.shallow
    · split <;> omega
    · split <;> omega
  head := h.opens.notGap

/-- A key that was noted is stale in later lines, unless it has to be one. -/
theorem stale_notedKey (h : l.indent < p.column) {line : Nat} (hline : p.line < line) :
    Stale (notedKey allowed l p) line := by
  intro k hk
  cases allowed with
  | false => cases hk
  | true =>
    cases hk
    exact ⟨beq_eq_false_iff_ne.2 (Int.ne_of_lt h), hline⟩

/-- A line that does not end with a break is closed with one. -/
theorem closedLine_of_unbroken {w : List Char} {x : Char} (h : w.getLast? = some x)
    (hx : isBreak x = false) : closedLine w = w ++ ['\n'] := by
  simp [closedLine, h, hx]

/-- A plain scalar is read to the end of its line and of the breaks after it. -/
theorem steps_plain {c : Char} {w : List Char} (h : Plain c w) {rest : List Char} {n : Nat}
    (hrest : Below l.indent rest n cs) (hp : l.indent < p.column) :
    Arrives (Steps (.block (closedLine (c :: w) ++ rest) p l allowed none)) n cs
      (l.push [.scalar .plain (String.ofList (c :: w))]) := by
  have hunbroken : ∀ x ∈ c :: w, isBreak x = false := by
    intro x hx
    rcases List.mem_cons.1 hx with rfl | hx
    · exact h.unbroken
    · exact h.goesOn.unbroken x hx
  have hlast := List.getLast?_eq_some_getLast (List.cons_ne_nil c w)
  rw [closedLine_of_unbroken hlast (hunbroken _ (List.getLast_mem _)), List.append_assoc,
    List.singleton_append, hrest.rest_eq]
  have hread := h.plainScalar_line (p := p) hrest.opens.notGap
    (hrest.shallow.imp And.left Int.lt_add_one_of_le) (by omega)
  have hline : ∀ x ∈ ('\n' :: (Yaml.spaces n ++ cs)).head?, x ≠ '-' ∧ x ≠ '.' := by
    intro x hx
    cases hx
    decide
  refine ⟨_, Nat.zero_add n, Leads.token (Leads.here hrest.opens ?_ .refl)
    (token_plain h hline hread) (by simp; omega)⟩
  exact stale_notedKey hp (by simp [Place.newline])

/-- A scalar in quotes is read, with the break after it. -/
theorem steps_quoted {double : Bool} {column : Nat} {w text : List Char}
    (h : Quoted double column false w text) (hcolumn : 0 < column) {rest : List Char} {n : Nat}
    (hrest : Below l.indent rest n cs) (hp : l.indent < p.column) :
    Arrives (Steps (.block (closedLine (quoteSign double :: w ++ [quoteSign double]) ++ rest) p l
      allowed none)) n cs (l.push [.scalar (if double then .doubleQuoted else .singleQuoted)
        (String.ofList text)]) := by
  have hsign : isBreak (quoteSign double) = false := by cases double <;> rfl
  have htext : closedLine (quoteSign double :: w ++ [quoteSign double]) ++ rest =
      quoteSign double :: w ++ quoteSign double :: '\n' :: (Yaml.spaces n ++ cs) := by
    rw [closedLine_of_unbroken List.getLast?_concat hsign, hrest.rest_eq]
    simp
  obtain ⟨p', hline, -, hread⟩ := quotedScalar_read h hcolumn ('\n' :: (Yaml.spaces n ++ cs))
    (fun _ => by simp) p
  rw [htext]
  refine ⟨_, Nat.zero_add n, Leads.token (Leads.newline hrest.opens n ?_ .refl)
    (token_quoted hread) (by simp; omega)⟩
  exact stale_notedKey hp (Nat.lt_succ_of_le hline)

/-- A literal block is read, with the breaks after it. -/
theorem steps_literal {text : List Char} (h : AllowsBlock text) {rest : List Char} {n : Nat}
    (hrest : Below l.indent rest n cs) (hindent : -1 ≤ l.indent) :
    Arrives (Steps (.block (closedLine ('|' :: literalHints text ++
      '\n' :: literalBody (blockColumn l.indent) true text) ++ rest) p l allowed none)) n cs
        (l.push [.scalar .literal (String.ofList text)]) := by
  obtain ⟨p', -, hcolumn, hread⟩ := blockScalar_read hindent hrest.follows h p
  rw [closedLine_literal _ h.ne_nil] at hread ⊢
  refine ⟨p', hcolumn, Leads.token (Leads.here hrest.opens (Stale.none _) ?_)
    (token_literal hread) ?_⟩
  · exact .refl
  · simp [hrest.rest_eq]
    omega

/-- A text is read where it is written as the content of a node. -/
theorem steps_text (allowed : Bool) (s : String) {rest : List Char} {n : Nat}
    (hrest : Below l.indent rest n cs) (hindent : -1 ≤ l.indent) (hp : l.indent < p.column) :
    Arrives (Steps (.block (closedLine (scalar (blockColumn l.indent) (styleOf s) s) ++ rest) p l
      allowed none)) n cs (l.push [.scalar (styleOf s) s]) := by
  have hs : String.ofList s.toList = s := String.ofList_toList
  have hallows := allows_styleOf s
  have hcolumn : 0 < blockColumn l.indent := Nat.zero_lt_of_lt hrest.follows.shallow
  generalize styleOf s = style at hallows ⊢
  generalize s.toList = text at hs hallows
  subst hs
  simp only [scalar, String.toList_ofList]
  cases hallows with
  | plain h => exact steps_plain h hrest hp
  | singleQuoted h => exact steps_quoted (quoted_single _ h false nofun) hcolumn hrest hp
  | doubleQuoted => exact steps_quoted (quoted_double _ text) hcolumn hrest hp
  | literal _ h => exact steps_literal h hrest hindent

/-! ## Brackets -/

/-- A character that begins a token opens a text. -/
theorem opens_cons {c : Char} (h : InLine c ∧ c ≠ ' ' ∧ c ≠ '#') (cs : List Char) :
    Opens (c :: cs) := by
  intro x hx
  cases hx
  exact h

/-- In the brackets of an empty collection, a key of the same line is kept. -/
theorem settle_inBrackets {c c' : Char} {start close : Token} (h : Brackets c c' start close)
    (hkey : ∀ k ∈ key, p.line ≤ k.place.line ∧ p.index ≤ k.place.index + 1024) :
    settle (Scanner.inBrackets (c' :: cs) p l key) =
      .ok ((), Scanner.inBrackets (c' :: cs) p l key) := by
  have hskip : skipSpace ((Scanner.inBrackets (c' :: cs) p l key).cursor.rest.length + 1)
      (Scanner.inBrackets (c' :: cs) p l key) =
        .ok ((), Scanner.inBrackets (c' :: cs) p l key) := by
    have hgap : gapEnd false ⟨c' :: cs, p⟩ = ⟨c' :: cs, p⟩ := by
      cases h <;> exact gapEnd_spaces (opens_cons (by decide) cs) 0 false p
    have hsucc : skipSpace ((c' :: cs).length + 1) (Scanner.inBrackets (c' :: cs) p l key) =
        (if (gapEnd false ⟨c' :: cs, p⟩).rest.head?.any isBreak then do
          setCursor (gapEnd false ⟨c' :: cs, p⟩).lineBreak.2
          skipSpace (c' :: cs).length
        else pure () : Scan Unit) (Scanner.inBrackets (gapEnd false ⟨c' :: cs, p⟩).rest
          (gapEnd false ⟨c' :: cs, p⟩).place l key) := rfl
    exact hsucc.trans (by rw [hgap]; cases h <;> rfl)
  have hdrop : dropStaleKeys (Scanner.inBrackets (c' :: cs) p l key) =
      .ok ((), Scanner.inBrackets (c' :: cs) p l key) := by
    rw [dropStaleKeys, bind_ok (run_get _), bind_ok (run_get _)]
    cases key with
    | none => rfl
    | some k =>
      obtain ⟨hline, hindex⟩ := hkey k rfl
      simp [Scanner.inBrackets, Nat.not_lt.2 hline, Nat.not_lt.2 hindex]
      rfl
  rw [settle, bind_ok (run_get _), bind_ok hskip, bind_ok hdrop]
  rfl

/-- The brackets of an empty collection are read, with the break after them. -/
theorem steps_brackets (allowed : Bool) {c c' : Char} {start close : Token}
    (h : Brackets c c' start close) {rest : List Char} {n : Nat} (hrest : Below l.indent rest n cs)
    (hp : l.indent < p.column) :
    Arrives (Steps (.block (c :: c' :: '\n' :: rest) p l allowed none)) n cs
      (l.push [start, close]) := by
  rw [hrest.rest_eq]
  have hkey : Stale (notedKey allowed l p) ((p.plus 2).line + 1) :=
    stale_notedKey hp (Nat.lt_succ_self p.line)
  have hfresh : ∀ k ∈ notedKey allowed l p,
      (p.plus 1).line ≤ k.place.line ∧ (p.plus 1).index ≤ k.place.index + 1024 := by
    intro k hk
    cases allowed with
    | false => cases hk
    | true =>
      cases hk
      exact ⟨Nat.le_refl _, by simp⟩
  refine ⟨(p.plus 2).newline.plus n, Nat.zero_add n, ?_⟩
  have hline : Leads (.block ('\n' :: (Yaml.spaces n ++ cs)) (p.plus 2) (l.push [start, close])
      false (notedKey allowed l p)) (.block cs ((p.plus 2).newline.plus n)
        ((l.push [start, close]).close ((p.plus 2).newline.plus n).column) true none) :=
    Leads.newline hrest.opens n hkey .refl
  have hclosing := hline.token (x := Scanner.inBrackets (c' :: '\n' :: (Yaml.spaces n ++ cs))
    (p.plus 1) (l.push [start]) (notedKey allowed l p)) (token_closing h) (Nat.lt_succ_self _)
  have hopening : Leads (Scanner.inBrackets (c' :: '\n' :: (Yaml.spaces n ++ cs)) (p.plus 1)
      (l.push [start]) (notedKey allowed l p)) _ :=
    ⟨_, settle_inBrackets h hfresh, Nat.le_refl _, hclosing⟩
  exact hopening.token (token_opening h) (Nat.lt_succ_self _)

/-! ## Keys -/

/-- A text has at least as many bytes as characters. -/
theorem length_le_utf8ByteSize (s : String) : s.toList.length ≤ s.utf8ByteSize := by
  induction s using String.push_induction with
  | empty => simp
  | push s c ih =>
    have := c.utf8Size_pos
    rw [String.toList_push, List.length_append, String.utf8ByteSize_push, List.length_singleton]
    omega

/-- In single quotes, a text of one line stays in its line and becomes at most twice as long. -/
theorem singleQuotedBody_unbroken (column : Nat) {cs : List Char}
    (h : ∀ c ∈ cs, isBreak c = false) :
    (∀ c ∈ singleQuotedBody column false cs, isBreak c = false) ∧
      (singleQuotedBody column false cs).length ≤ 2 * cs.length := by
  induction cs with
  | nil => exact ⟨nofun, Nat.le_refl _⟩
  | cons c cs ih =>
    obtain ⟨hbreak, hlength⟩ := ih fun x hx => h x (.tail _ hx)
    have hc := h c (.head _)
    have hbody : singleQuotedBody column false (c :: cs) =
        (if c == '\'' then ['\'', '\''] else [c]) ++ singleQuotedBody column false cs := by
      simp [singleQuotedBody, hc]
    rw [hbody]
    constructor
    · intro x hx
      rcases List.mem_append.1 hx with hx | hx
      · split at hx <;> simp_all
      · exact hbreak x hx
    · rw [List.length_append, List.length_cons]
      split <;> simp <;> omega

/-- The end of a scalar of one line is found where a colon follows it. -/
structure KeyRead (l : Levels) (p : Place) (style : Style) (text written : List Char) : Prop where
  pos : 0 < written.length
  length : written.length ≤ 1024
  read : ∀ cs, atGap cs = true →
    token (.block (written ++ ':' :: cs) p l true none) =
      .ok (true, .block (':' :: cs) (p.plus written.length)
        (l.push [.scalar style (String.ofList text)]) false (notedKey true l p))

/-- A quoted scalar that is short is read as a key. -/
theorem keyRead_quoted {double : Bool} {column : Nat} {w text : List Char}
    (h : Quoted double column false w text) (hcolumn : 0 < column)
    (hw : ∀ c ∈ w, isBreak c = false) (hlength : w.length + 2 ≤ 1024) :
    KeyRead l p (if double then .doubleQuoted else .singleQuoted) text
      (quoteSign double :: w ++ [quoteSign double]) where
  pos := Nat.succ_pos _
  length := by
    rw [List.length_append, List.length_cons, List.length_singleton]
    exact hlength
  read cs _ := by
    obtain ⟨p', -, hplace, hread⟩ := quotedScalar_read h hcolumn (':' :: cs) (fun _ => by simp) p
    obtain rfl := hplace hw
    have htext : quoteSign double :: w ++ [quoteSign double] ++ ':' :: cs =
        quoteSign double :: w ++ quoteSign double :: ':' :: cs := by simp
    rw [htext]
    have hlength : (quoteSign double :: w ++ [quoteSign double]).length = w.length + 2 := by simp
    rw [hlength]
    exact token_quoted hread

/-- A key of one line is read up to its colon. -/
theorem keyRead_simple {s : String} (hs : isSimpleKey s = true) (column : Nat)
    (hp : l.indent ≤ p.column) :
    KeyRead l p (styleOf s) s.toList (scalar (column + 2) (styleOf s) s) := by
  obtain ⟨hsize, hbreaks⟩ := Bool.and_eq_true_iff.1 hs
  have hlength : s.toList.length ≤ 128 :=
    Nat.le_trans (length_le_utf8ByteSize s) (of_decide_eq_true hsize)
  have hbreak : ∀ c ∈ s.toList, isBreak c = false := by simpa using hbreaks
  have hallows := allows_styleOf s
  unfold scalar
  generalize styleOf s = style at hallows ⊢
  generalize s.toList = text at *
  cases hallows with
  | plain h =>
    refine ⟨Nat.succ_pos _, Nat.le_trans hlength (by decide), fun cs hgap => ?_⟩
    exact token_plain h (fun x hx => by cases hx; decide)
      (h.plainScalar_key hgap (Int.add_le_add_right hp 1))
  | singleQuoted h =>
    obtain ⟨hbody, hbound⟩ := singleQuotedBody_unbroken (column + 2) hbreak
    exact keyRead_quoted (quoted_single _ h false nofun) (Nat.succ_pos _) hbody
      (by omega)
  | doubleQuoted =>
    have hbound := length_doubleQuotedBody text
    exact keyRead_quoted (quoted_double (column + 2) text) (Nat.succ_pos _)
      (fun c hc => (inLine_doubleQuotedBody text c hc).2) (by omega)
  | literal hn => exact absurd (hbreak _ hn) (by decide)

/-- Where the text of a node begins, behind a sign in a column or behind a key. -/
def Behind (column : Nat) (p : Place) : Position → Prop
  | .afterKey => column < p.column
  | .afterIndicator => p.column = column + 1

/-- A scalar begins a token. -/
theorem opens_scalar (column : Nat) (s : String) (rest : List Char) :
    Opens (scalar column (styleOf s) s ++ rest) := by
  have hallows := allows_styleOf s
  unfold scalar
  generalize styleOf s = style at hallows ⊢
  generalize s.toList = text at hallows
  cases hallows with
  | plain h =>
    exact opens_cons ⟨⟨h.printable, h.unbroken⟩, h.notSpace, h.ne_of_isIndicator (by decide)⟩ _
  | singleQuoted => exact opens_cons (c := '\'') (by decide) _
  | doubleQuoted => exact opens_cons (c := '"') (by decide) _
  | literal => exact opens_cons (c := '|') (by decide) _

/-- What begins a token still does when its line is closed. -/
theorem opens_closedLine {cs : List Char} (h : ∀ rest, Opens (cs ++ rest)) (rest : List Char) :
    Opens (closedLine cs ++ rest) := by
  obtain ⟨-, -, -, hclosed⟩ | ⟨-, hclosed⟩ := closedLine_cases cs
  · rw [hclosed]
    exact h rest
  · rw [hclosed, List.append_assoc]
    exact h _

/-- A key of one line is read with its colon. -/
theorem steps_simpleKey {s : String} (hs : isSimpleKey s = true) (column : Nat) {after : List Char}
    (hl : l.indent ≤ p.column) (hgap : atGap after = true) :
    ∃ p', p.column < p'.column ∧ ∀ y, Leads (.block after p'
      ((l.opened p.column .blockMappingStart).push [.key, .scalar (styleOf s) s, .value]) false
        none) y →
      Steps (.block (scalar (column + 2) (styleOf s) s ++ ':' :: after) p l true none) y := by
  obtain ⟨hpos, hlength, hread⟩ := keyRead_simple hs column hl
  have htoken := hread after hgap
  rw [String.ofList_toList] at htoken
  generalize scalar (column + 2) (styleOf s) s = written at hpos hlength htoken ⊢
  refine ⟨(p.plus written.length).plus 1, by simp, fun y hy => ?_⟩
  have hvalue := hy.token (token_value_noted (p := p.plus written.length)
    (k := ⟨l.indent == p.column, l.tokens.length, p⟩) rfl hgap) (Nat.lt_succ_self _)
  have hcolon : Leads (.block (':' :: after) (p.plus written.length)
      (l.push [.scalar (styleOf s) s]) false (notedKey true l p)) y :=
    ⟨_, settle_key (opens_cons (by decide) after) (Nat.le_refl _) (by simpa using hlength)
      (by simp; omega), Nat.le_refl _, hvalue⟩
  exact hcolon.token htoken (by simpa using hpos)

/-- The text of a key that was marked by itself is read, with the colon on the next line. -/
theorem leads_markedKey (s : String) {column : Nat} (hl : l.indent = column)
    (hp : p.column = column + 1) {after : List Char} (hgap : atGap after = true) :
    ∃ p', p'.column = column + 1 ∧ ∀ y,
      Leads (.block after p' (l.push [.scalar (styleOf s) s, .value]) true none) y →
      Leads (.block (' ' :: (closedLine (scalar (column + 2) (styleOf s) s) ++
        (Yaml.spaces column ++ ':' :: after))) p l true none) y := by
  have hbelow : Below l.indent (Yaml.spaces column ++ ':' :: after) column (':' :: after) :=
    ⟨rfl, opens_cons (by decide) after, .inr (Int.le_of_eq hl.symm)⟩
  have hcolumn : blockColumn l.indent = column + 2 := by simp [blockColumn, hl]
  have hplace : l.indent < (p.plus 1).column := by
    rw [hl, Place.column_plus, hp]
    omega
  obtain ⟨p', hp', htext⟩ := steps_text true s hbelow (by omega) hplace
  have hkept : (l.push [.scalar (styleOf s) s]).close p'.column = l.push [.scalar (styleOf s) s] :=
    Levels.close_of_le _ (by simp [hl, hp'])
  have hsame : (l.push [.scalar (styleOf s) s]).opened p'.column .blockMappingStart =
      l.push [.scalar (styleOf s) s] := Levels.opened_of_indent _ (by simp [hl, hp']) _
  rw [hkept, hcolumn] at htext
  refine ⟨p'.plus 1, by simp [hp'], fun y hy =>
    Leads.spaces (opens_closedLine (opens_scalar _ s) _) 1 ?_⟩
  rw [l.close_of_le (Int.le_of_lt hplace)]
  refine htext.trans (hy.token ?_ (Nat.lt_succ_self _))
  rw [token_mark .value hgap, hsame, Levels.push_push]
  rfl

/-- A key is read with its colon, and what is read after it goes on from there. -/
theorem steps_key (s : String) {column : Nat} {after : List Char} (hp : p.column = column)
    (hl : l.indent ≤ column) (hgap : atGap after = true) :
    ∃ p', Behind column p' (.ofKey s) ∧ ∀ y, Leads (Scanner.after (.ofKey s) after p'
      ((l.opened column .blockMappingStart).push [.key, .scalar (styleOf s) s, .value])) y →
        Steps (.block (writtenKey column s ++ after) p l true none) y := by
  subst hp
  rw [writtenKey, Position.ofKey]
  split
  · next hs =>
    obtain ⟨p', hp', hsteps⟩ := steps_simpleKey hs p.column hl hgap
    refine ⟨p', hp', fun y hy => ?_⟩
    rw [List.append_assoc]
    exact hsteps y hy
  · obtain ⟨p', hp', htext⟩ := leads_markedKey (p := p.plus 1)
      (l := (l.opened p.column .blockMappingStart).push [.key]) s (l.indent_opened hl _) rfl hgap
    refine ⟨p', hp', fun y hy => ?_⟩
    have hkey := (htext y (by rwa [Levels.push_push])).token (x := .block ('?' :: ' ' ::
      (closedLine (scalar (p.column + 2) (styleOf s) s) ++ (Yaml.spaces p.column ++ ':' :: after)))
        p l true none) (token_mark .key rfl) (Nat.lt_succ_self _)
    simpa using hkey

end Scan

end Provision.Yaml
