import Provision.Proofs.Yaml.LiteralText
import Provision.Proofs.Yaml.QuotedText

/-!
# Between tokens

Outside brackets the state of reading tokens is a cursor, the tokens and open collections so far
(`Levels`), and what is known of keys (`Scanner.block`). Before a token is read, blanks and a break
are skipped, keys of earlier lines are forgotten, and collections that are indented deeper than the
token are closed (`Scan.settle`); `Scan.token` reads the token itself.
-/

namespace Provision.Yaml

/-! ## Open collections -/

/-- The tokens so far, the newest first, and the columns of the open block collections. -/
structure Levels where
  tokens : List Token
  indent : Int
  outer : List Int

namespace Levels

variable (l : Levels) {column d : Int}

/-- Adds tokens, the first of them first. -/
def push (ts : List Token) : Levels := { l with tokens := ts.reverse ++ l.tokens }

/-- Tokens are added one after the other. -/
@[simp] theorem push_push (ts us : List Token) : (l.push ts).push us = l.push (ts ++ us) := by
  simp [push]

/-- Adding tokens opens and closes nothing. -/
@[simp] theorem indent_push (ts : List Token) : (l.push ts).indent = l.indent := rfl

/-- Closes the collections that are deeper than a column. -/
def close (column : Int) : Levels :=
  let closed := (l.indent :: l.outer).takeWhile (column < ·)
  let left := (l.indent :: l.outer).drop closed.length
  ⟨closed.map (fun _ => Token.blockEnd) ++ l.tokens, left.headD (-1), left.drop 1⟩

/-- A collection at a column that is not deeper stays open. -/
theorem close_of_le (h : l.indent ≤ column) : l.close column = l := by
  simp [close, Int.not_lt.2 h]

/-- A collection that is deeper than a column is closed, and then those around it. -/
theorem close_cons {ts : List Token} {i o : Int} {os : List Int} (h : column < i) :
    close ⟨ts, i, o :: os⟩ column = close ⟨.blockEnd :: ts, o, os⟩ column := by
  have hends (n : Nat) : List.replicate (n + 1) Token.blockEnd ++ ts =
      List.replicate n Token.blockEnd ++ .blockEnd :: ts := by
    rw [List.replicate_succ', List.append_assoc]
    rfl
  have htake : (i :: o :: os).takeWhile (column < ·) = i :: (o :: os).takeWhile (column < ·) :=
    List.takeWhile_cons_of_pos (decide_eq_true h)
  simp only [close, htake, List.map_const', List.length_cons, List.drop_succ_cons, hends]

/-- Opens a collection at a column, unless one is open there. -/
def opened (column : Nat) (t : Token) : Levels :=
  if l.indent < column then ⟨t :: l.tokens, column, l.indent :: l.outer⟩ else l

/-- A collection that is opened at a column is open there. -/
theorem indent_opened {n : Nat} (h : l.indent ≤ n) (t : Token) : (l.opened n t).indent = n := by
  unfold opened
  split
  · rfl
  · omega

/-- Where a collection is open, none is opened. -/
theorem opened_of_indent {n : Nat} (h : l.indent = n) (t : Token) : l.opened n t = l := by
  simp [opened, h]

/-- A collection that was opened is closed again. -/
theorem close_opened {n : Nat} (hn : l.indent < n) (hd : d < n) (t : Token) (ts : List Token) :
    ((l.opened n t).push ts).close d = (l.push (t :: ts ++ [.blockEnd])).close d := by
  rw [opened, if_pos hn, push, close_cons hd, push]
  simp

end Levels

/-- The state of reading tokens outside brackets. -/
def Scanner.block (cs : List Char) (p : Place) (l : Levels) (allowed : Bool)
    (key : Option KeyStart) : Scanner :=
  ⟨⟨cs, p⟩, l.tokens, l.tokens.length, l.indent, l.outer, allowed, [key]⟩

section

variable (cs : List Char) (p : Place) (l : Levels) (allowed : Bool) (key : Option KeyStart)

/-- Outside brackets the cursor is at the text that is left. -/
@[simp] theorem Scanner.cursor_block : (block cs p l allowed key).cursor = ⟨cs, p⟩ := rfl

/-- Outside brackets the indentation is that of the innermost collection. -/
@[simp] theorem Scanner.indent_block : (block cs p l allowed key).indent = l.indent := rfl

end

namespace Scan

/-- Goes to the next token, and closes what is open up to there. -/
def settle : Scan Unit := do
  skipSpace ((← get).cursor.rest.length + 1)
  dropStaleKeys
  dedentTo (← get).cursor.place.column

/-- Reads the token at the cursor. -/
def token : Scan Bool := do
  let s ← get
  let flow ← inFlow
  let first := s.cursor.place.column == 0
  match s.cursor.rest with
  | [] => streamEnd; return false
  | c :: rest =>
    if first && c == '%' then directive
    else if first && atMarker '-' s.cursor.rest then documentMarker .documentStart
    else if first && atMarker '.' s.cursor.rest then documentMarker .documentEnd
    else if c == '[' then flowStart .flowSequenceStart
    else if c == '\x7b' then flowStart .flowMappingStart
    else if c == ']' then flowEnd .flowSequenceEnd
    else if c == '\x7d' then flowEnd .flowMappingEnd
    else if c == ',' then dropKey; allowKey true; indicator .flowEntry
    else if c == '-' && atGap rest then blockEntry
    else if c == '?' && (flow || atGap rest) then key
    else if c == ':' && (flow || atGap rest) then value
    else if c == '*' then noteKey; allowKey false; emit (.reference (← anchorName))
    else if c == '&' then noteKey; allowKey false; emit (.anchor (← anchorName))
    else if c == '!' then noteKey; allowKey false; tag
    else if c == '|' && !flow then block false
    else if c == '>' && !flow then block true
    else if c == '\'' then quoted false
    else if c == '"' then quoted true
    else if startsPlain flow s.cursor.rest then plain
    else throw "a character that begins no token"
    return true

/-- The next token is read after what stands before it is skipped. -/
theorem next_eq : next = settle >>= fun _ => token := by
  simp only [next, settle, bind_assoc]
  rfl

/-- Once what stands before a token is skipped, the next one is read there. -/
theorem next_of_settle {s s' : Scanner} (h : settle s = .ok ((), s')) : next s = token s' := by
  rw [next_eq, bind_ok h]

/-! ## Settling -/

/-- A text begins with a token, or is at its end. -/
def Opens (cs : List Char) : Prop := ∀ x ∈ cs.head?, InLine x ∧ x ≠ ' ' ∧ x ≠ '#'

section

variable {cs : List Char} {p : Place} {l : Levels} {allowed : Bool} {key : Option KeyStart}

/-- A token does not begin with a gap. -/
theorem Opens.notGap (h : Opens cs) : ∀ x ∈ cs.head?, isBlank x = false ∧ isBreak x = false := by
  intro x hx
  obtain ⟨⟨hprint, hbreak⟩, hspace, -⟩ := h x hx
  rw [isBlank_of_isPrintable hprint, beq_eq_false_iff_ne]
  exact ⟨hspace, hbreak⟩

/-- No byte order mark is before a token. -/
theorem skipByteOrderMark_spaces (h : Opens cs) (n : Nat) :
    Cursor.skipByteOrderMark ⟨spaces n ++ cs, p⟩ = ⟨spaces n ++ cs, p⟩ := by
  have hhead : (spaces n ++ cs).head? ≠ some '\uFEFF' := by
    cases n with
    | zero =>
      intro hx
      exact absurd (h _ hx).1.1 (by decide)
    | succ n => exact fun hx => absurd (Option.some.inj hx) (by decide)
  rw [Cursor.skipByteOrderMark, beq_eq_false_iff_ne.2 hhead, Bool.and_false]
  rfl

/-- The cursor behind the blanks and the comment that come next. -/
def gapEnd (allowed : Bool) (c : Cursor) : Cursor :=
  let c := c.skipByteOrderMark.skipWhile fun x => x == ' ' || ((false || !allowed) && x == '\t')
  if c.rest.head? == some '#' then c.skipLine else c

/-- Outside brackets, skipping goes on in the next line and allows a key there. -/
theorem skipSpace_succ (bound : Nat) : skipSpace (bound + 1) (.block cs p l allowed key) =
    (if (gapEnd allowed ⟨cs, p⟩).rest.head?.any isBreak then do
      setCursor (gapEnd allowed ⟨cs, p⟩).lineBreak.2
      allowKey true
      skipSpace bound
    else pure () : Scan Unit)
      (.block (gapEnd allowed ⟨cs, p⟩).rest (gapEnd allowed ⟨cs, p⟩).place l allowed key) :=
  rfl

/-- The gap before a token ends after the spaces. -/
theorem gapEnd_spaces (h : Opens cs) (n : Nat) (allowed : Bool) (p : Place) :
    gapEnd allowed ⟨spaces n ++ cs, p⟩ = ⟨cs, p.plus n⟩ := by
  have hskip : Cursor.skipWhile (fun x => x == ' ' || ((false || !allowed) && x == '\t'))
      ⟨spaces n ++ cs, p⟩ = ⟨cs, p.plus n⟩ := by
    have hspaces : ∀ x ∈ spaces n, (x == ' ' || ((false || !allowed) && x == '\t')) = true :=
      fun x hx => by rw [List.eq_of_mem_replicate hx]; rfl
    have happend := Cursor.skipWhile_append hspaces (fun x hx => by
      obtain ⟨hspace, htab⟩ := Bool.or_eq_false_iff.1 (h.notGap x hx).1
      simp [hspace, htab]) p
    rwa [length_spaces] at happend
  have hcomment : cs.head? ≠ some '#' := fun hx => (h _ hx).2.2 rfl
  rw [gapEnd, skipByteOrderMark_spaces h]
  simp only [hskip, beq_eq_false_iff_ne.2 hcomment, Bool.false_eq_true, if_false]

/-- The spaces before a token are skipped. -/
theorem skipSpace_spaces (h : Opens cs) (n bound : Nat) :
    skipSpace (bound + 1) (.block (spaces n ++ cs) p l allowed key) =
      .ok ((), .block cs (p.plus n) l allowed key) := by
  have hbreak : cs.head?.any isBreak = false := by
    cases cs with
    | nil => rfl
    | cons x cs => exact (h.notGap x rfl).2
  rw [skipSpace_succ, gapEnd_spaces h, hbreak]
  rfl

/-- The break at the end of a line is skipped. -/
theorem skipSpace_newline (bound : Nat) :
    skipSpace (bound + 1) (.block ('\n' :: cs) p l allowed key) =
      skipSpace bound (.block cs p.newline l true key) := by
  have hgap : gapEnd allowed ⟨'\n' :: cs, p⟩ = ⟨'\n' :: cs, p⟩ := by
    cases allowed <;> simp [gapEnd, Cursor.skipByteOrderMark, Cursor.skipWhile, Cursor.forward]
  rw [skipSpace_succ, hgap]
  rfl

/-- A key that was noted in an earlier line and need not be one. -/
def Stale (key : Option KeyStart) (line : Nat) : Prop :=
  ∀ k ∈ key, k.required = false ∧ k.place.line < line

/-- If no key was noted, none is stale. -/
theorem Stale.none (line : Nat) : Stale none line := nofun

/-- Asking for the state gives it. -/
theorem run_get (s : Scanner) : (get : Scan Scanner) s = .ok (s, s) := rfl

/-- A stale key is dropped. -/
theorem dropStaleKeys_stale (h : Stale key p.line) :
    dropStaleKeys (.block cs p l allowed key) = .ok ((), .block cs p l allowed none) := by
  cases key with
  | none => rfl
  | some k =>
    obtain ⟨hrequired, hline⟩ := h k rfl
    rw [dropStaleKeys, bind_ok (run_get _), bind_ok (run_get _)]
    simp [Scanner.block, hrequired, hline]
    rfl

/-- A key that was noted in the same line, not too far back, is kept. -/
theorem dropStaleKeys_fresh {k : KeyStart} (hline : p.line ≤ k.place.line)
    (hindex : p.index ≤ k.place.index + 1024) :
    dropStaleKeys (.block cs p l allowed (some k)) = .ok ((), .block cs p l allowed (some k)) := by
  rw [dropStaleKeys, bind_ok (run_get _), bind_ok (run_get _)]
  simp [Scanner.block, Nat.not_lt.2 hline, Nat.not_lt.2 hindex]
  rfl

/-- Collections that are deeper than a column are closed. -/
theorem dedentTo_block (column : Int) :
    dedentTo column (.block cs p l allowed key) =
      .ok ((), .block cs p (l.close column) allowed key) := by
  have hstep : dedentTo column (.block cs p l allowed key) = .ok ((),
      { Scanner.block cs p (l.close column) allowed key with
        count := l.tokens.length + ((l.indent :: l.outer).takeWhile (column < ·)).length }) := rfl
  have hcount : (l.close column).tokens.length =
      l.tokens.length + ((l.indent :: l.outer).takeWhile (column < ·)).length := by
    simp [Levels.close, Nat.add_comm]
  rw [hstep, ← hcount]
  rfl

/-- Settling skips what stands before a token, drops keys and closes collections. -/
theorem settle_of {s : Scanner} {key' : Option KeyStart}
    (hskip : skipSpace (s.cursor.rest.length + 1) s = .ok ((), .block cs p l allowed key))
    (hdrop : dropStaleKeys (.block cs p l allowed key) = .ok ((), .block cs p l allowed key')) :
    settle s = .ok ((), .block cs p (l.close p.column) allowed key') := by
  rw [settle, bind_ok (run_get _), bind_ok hskip, bind_ok hdrop, bind_ok (run_get _)]
  exact dedentTo_block _

/-- Within a line, settling skips the spaces before a token. -/
theorem settle_spaces (h : Opens cs) (n : Nat) :
    settle (.block (spaces n ++ cs) p l allowed none) =
      .ok ((), .block cs (p.plus n) (l.close (p.plus n).column) allowed none) :=
  settle_of (skipSpace_spaces h n _) (dropStaleKeys_stale (Stale.none _))

/-- At a token of a new line, settling forgets the keys of earlier lines. -/
theorem settle_here (h : Opens cs) (hkey : Stale key p.line) :
    settle (.block cs p l allowed key) = .ok ((), .block cs p (l.close p.column) allowed none) :=
  settle_of (skipSpace_spaces h 0 _) (dropStaleKeys_stale hkey)

/-- At the end of a line, settling goes to the token of the next one. -/
theorem settle_newline (h : Opens cs) (n : Nat) (hkey : Stale key (p.line + 1)) :
    settle (.block ('\n' :: (spaces n ++ cs)) p l allowed key) =
      .ok ((), .block cs (p.newline.plus n) (l.close (p.newline.plus n).column) true none) :=
  settle_of ((skipSpace_newline _).trans (skipSpace_spaces h n _)) (dropStaleKeys_stale hkey)

/-- Behind a key that may end there, settling changes nothing. -/
theorem settle_key {k : KeyStart} (h : Opens cs) (hline : p.line ≤ k.place.line)
    (hindex : p.index ≤ k.place.index + 1024) (hindent : l.indent ≤ p.column) :
    settle (.block cs p l allowed (some k)) = .ok ((), .block cs p l allowed (some k)) := by
  have hsettle : settle (.block cs p l allowed (some k)) =
      .ok ((), .block cs p (l.close p.column) allowed (some k)) :=
    settle_of (skipSpace_spaces h 0 _) (dropStaleKeys_fresh hline hindex)
  rwa [l.close_of_le hindent] at hsettle

end

end Scan

end Provision.Yaml
