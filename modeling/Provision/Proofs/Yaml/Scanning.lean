import Provision.Proofs.Yaml.Settling
import Provision.Proofs.Yaml.Tokens

/-!
# One token at a time

What the token at the cursor does to the state of reading: an indicator opens its collection, if
that is not open yet (`token_mark`), the colon after a key of one line marks the key in front of it
(`token_value_noted`), and each form of scalar adds the text that was written
(`token_plain`, `token_quoted`, `token_literal`). The sign at the cursor decides which of them is
read.
-/

namespace Provision.Yaml

/-- The state of reading tokens inside the brackets of an empty collection. -/
def Scanner.inBrackets (cs : List Char) (p : Place) (l : Levels) (key : Option KeyStart) :
    Scanner :=
  ⟨⟨cs, p⟩, l.tokens, l.tokens.length, l.indent, l.outer, true, [none, key]⟩

namespace Scan

variable {cs : List Char} {p : Place} {l : Levels} {allowed : Bool} {key : Option KeyStart}

/-- Outside brackets reading is not inside them. -/
theorem inFlow_block : inFlow (.block cs p l allowed key) =
    .ok (false, .block cs p l allowed key) := rfl

/-- A mark of a document begins with its character. -/
theorem atMarker_cons {c x : Char} (h : x ≠ c) : atMarker c (x :: cs) = false := by
  unfold atMarker
  split
  · next heq =>
    obtain ⟨rfl, -⟩ := List.cons.inj heq
    simp [h]
  · rfl

/-- A single sign before a gap is no mark of a document. -/
theorem atMarker_of_gap {c x : Char} (hc : c = '-' ∨ c = '.') (h : atGap cs = true) :
    atMarker c (x :: cs) = false := by
  rcases cs with _ | ⟨y, _ | ⟨z, cs⟩⟩
  · rfl
  · rfl
  · have hy : y ≠ c := by
      rintro rfl
      rcases hc with rfl | rfl <;> exact absurd h (by simp [atGap, isBlank, isBreak])
    simp [atMarker, hy]

/-- A token is read by what its sign stands for. -/
theorem token_of {x : Scan Unit} {s s' : Scanner}
    (hdispatch : token s = (x >>= fun _ => pure true) s) (hx : x s = .ok ((), s')) :
    token s = .ok (true, s') := by
  rw [hdispatch, bind_ok hx]
  rfl

/-! ## Indicators -/

/-- A token is put in before some that were read after it. -/
theorem emitAt_block (us : List Token) (u : Token) :
    emitAt l.tokens.length u (.block cs p (l.push us) allowed key) =
      .ok ((), .block cs p ((l.push [u]).push us) allowed key) := by
  have hlater : (us.reverse ++ l.tokens).length - l.tokens.length = us.reverse.length := by simp
  have hstep : emitAt l.tokens.length u (.block cs p (l.push us) allowed key) = .ok ((),
      { Scanner.block cs p (l.push us) allowed key with
        tokens := (us.reverse ++ l.tokens).take
            ((us.reverse ++ l.tokens).length - l.tokens.length) ++
          u :: (us.reverse ++ l.tokens).drop ((us.reverse ++ l.tokens).length - l.tokens.length)
        count := (us.reverse ++ l.tokens).length + 1 }) := rfl
  rw [hstep, hlater, List.take_left, List.drop_left]
  simp [Scanner.block, Levels.push]
  omega

/-- A collection is opened at a column, unless one is open there. -/
theorem indentTo_block (n : Nat) (t : Token) :
    indentTo n none t (.block cs p l allowed key) =
      .ok ((), .block cs p (l.opened n t) allowed key) := by
  rw [indentTo, bind_ok inFlow_block, bind_ok (run_get _), Levels.opened]
  by_cases h : l.indent < n
  · simp only [Scanner.block, h, decide_true, Bool.not_false, Bool.true_and, if_true]
    rfl
  · simp only [Scanner.block, h, decide_false, Bool.and_false, Bool.false_eq_true, if_false]
    rfl

/-- A collection is opened before some tokens that were read after its beginning. -/
theorem indentTo_block_at (n : Nat) (t : Token) (us : List Token) :
    indentTo n (some l.tokens.length) t (.block cs p (l.push us) allowed key) =
      .ok ((), .block cs p ((l.opened n t).push us) allowed key) := by
  rw [indentTo, bind_ok inFlow_block, bind_ok (run_get _), Levels.opened]
  by_cases h : l.indent < n
  · simp only [Scanner.block, Levels.indent_push, h, decide_true, Bool.not_false, Bool.true_and,
      if_true]
    exact emitAt_block (l := ⟨l.tokens, n, l.indent :: l.outer⟩) us t
  · simp only [Scanner.block, Levels.indent_push, h, decide_false, Bool.and_false,
      Bool.false_eq_true, if_false]
    rfl

/-- A sign of a block collection: what it opens and which token it is. -/
inductive Marks : Char → Token → Token → Prop
  | item : Marks '-' .blockSequenceStart .blockEntry
  | key : Marks '?' .blockMappingStart .key
  | value : Marks ':' .blockMappingStart .value

/-- A sign of a block collection opens the collection, unless it is open. -/
theorem token_mark {c : Char} {start t : Token} (h : Marks c start t) (hgap : atGap cs = true) :
    token (.block (c :: cs) p l true none) =
      .ok (true, .block cs (p.plus 1) ((l.opened p.column start).push [t]) true none) := by
  have hdash (x : Char) : atMarker '-' (x :: cs) = false := atMarker_of_gap (.inl rfl) hgap
  have hpoint (x : Char) : atMarker '.' (x :: cs) = false := atMarker_of_gap (.inr rfl) hgap
  cases h with
  | item =>
    have hentry : blockEntry (.block ('-' :: cs) p l true none) =
        (indentTo p.column none .blockSequenceStart >>= fun _ => do
          dropKey
          allowKey true
          indicator .blockEntry) (.block ('-' :: cs) p l true none) := rfl
    refine token_of (x := blockEntry) ?_ (by rw [hentry, bind_ok (indentTo_block _ _)]; rfl)
    rw [token, bind_ok (run_get _), bind_ok inFlow_block]
    simp [Scanner.block, hdash, hpoint, hgap]
  | key =>
    have hkey : Scan.key (.block ('?' :: cs) p l true none) =
        (indentTo p.column none .blockMappingStart >>= fun _ => do
          dropKey
          allowKey true
          indicator .key) (.block ('?' :: cs) p l true none) := rfl
    refine token_of (x := Scan.key) ?_ (by rw [hkey, bind_ok (indentTo_block _ _)]; rfl)
    rw [token, bind_ok (run_get _), bind_ok inFlow_block]
    simp [Scanner.block, hdash, hpoint, hgap]
  | value =>
    have hvalue : value (.block (':' :: cs) p l true none) =
        (indentTo p.column none .blockMappingStart >>= fun _ => do
          allowKey true
          indicator .value) (.block (':' :: cs) p l true none) := rfl
    refine token_of (x := value) ?_ (by rw [hvalue, bind_ok (indentTo_block _ _)]; rfl)
    rw [token, bind_ok (run_get _), bind_ok inFlow_block]
    simp [Scanner.block, hdash, hpoint, hgap]

/-- The colon after a key of one line marks the key in front of it. -/
theorem token_value_noted {k : KeyStart} {t : Token} (hk : k.token = l.tokens.length)
    (hgap : atGap cs = true) :
    token (.block (':' :: cs) p (l.push [t]) false (some k)) =
      .ok (true, .block cs (p.plus 1)
        ((l.opened k.place.column .blockMappingStart).push [.key, t, .value]) false none) := by
  have hnoted : value (.block (':' :: cs) p (l.push [t]) false (some k)) =
      (emitAt k.token .key >>= fun _ =>
        indentTo k.place.column (some k.token) .blockMappingStart >>= fun _ => do
          modify fun s => { s with keys := none :: [] }
          allowKey false
          indicator .value) (.block (':' :: cs) p (l.push [t]) false (some k)) := rfl
  refine token_of (x := value) ?_ ?_
  · rw [token, bind_ok (run_get _), bind_ok inFlow_block]
    simp [Scanner.block, atMarker_of_gap (.inl rfl) hgap, atMarker_of_gap (.inr rfl) hgap, hgap]
  · rw [hnoted, hk, bind_ok (emitAt_block _ _), Levels.push_push, bind_ok (indentTo_block_at _ _ _)]
    rfl

/-! ## Brackets -/

/-- The key that is noted at the cursor where one is allowed. -/
def notedKey (allowed : Bool) (l : Levels) (p : Place) : Option KeyStart :=
  if allowed then some ⟨l.indent == p.column, l.tokens.length, p⟩ else none

/-- A key is noted where one is allowed. -/
theorem noteKey_block : noteKey (.block cs p l allowed none) =
    .ok ((), .block cs p l allowed (notedKey allowed l p)) := by
  cases allowed <;> rfl

/-- The brackets of an empty collection. -/
inductive Brackets : Char → Char → Token → Token → Prop
  | sequence : Brackets '[' ']' .flowSequenceStart .flowSequenceEnd
  | mapping : Brackets '\x7b' '\x7d' .flowMappingStart .flowMappingEnd

/-- An opening bracket is read as its token. -/
theorem token_opening {c c' : Char} {start close : Token} (h : Brackets c c' start close) :
    token (.block (c :: cs) p l allowed none) =
      .ok (true, Scanner.inBrackets cs (p.plus 1) (l.push [start]) (notedKey allowed l p)) := by
  have hstart (t : Token) : flowStart t (.block (c :: cs) p l allowed none) =
      .ok ((), Scanner.inBrackets cs (p.plus 1) (l.push [t]) (notedKey allowed l p)) := by
    rw [flowStart, bind_ok noteKey_block]
    rfl
  refine token_of (x := flowStart start) ?_ (hstart start)
  rw [token, bind_ok (run_get _), bind_ok inFlow_block]
  cases h <;> simp [Scanner.block, atMarker_cons]

/-- A closing bracket is read as its token. -/
theorem token_closing {c c' : Char} {start close : Token} (h : Brackets c c' start close) :
    token (Scanner.inBrackets (c' :: cs) p l key) =
      .ok (true, .block cs (p.plus 1) (l.push [close]) false key) := by
  have hflow : inFlow (Scanner.inBrackets (c' :: cs) p l key) =
      .ok (true, Scanner.inBrackets (c' :: cs) p l key) := rfl
  refine token_of (x := flowEnd close) ?_ rfl
  rw [token, bind_ok (run_get _), bind_ok hflow]
  cases h <;> simp [Scanner.inBrackets, atMarker_cons]

/-! ## Scalars -/

/-- A scalar that may be a key is noted before it is read. -/
theorem keyScalar_block (read : Scan Unit) :
    keyScalar read (.block cs p l allowed none) =
      read (.block cs p l false (notedKey allowed l p)) := by
  rw [keyScalar, bind_ok noteKey_block]
  rfl

/-- What goes well by itself goes well while tokens are read. -/
theorem run_lift {α : Type} {x : Except Problem α} {a : α} (h : x = .ok a) (s : Scanner) :
    (liftM x : Scan α) s = .ok (a, s) := by
  rw [h]
  rfl

/-- A plain text is read as a plain scalar. -/
theorem startsPlain_of_plain {c : Char} {w : List Char} (h : Plain c w) (rest : List Char) :
    startsPlain false (c :: (w ++ rest)) = true := by
  have hgap : c = '?' ∨ c = ':' ∨ c = '-' → atGap (w ++ rest) = false :=
    fun hc => atGap_of_endsWord (h.unmarked hc) rest
  rw [startsPlain]
  by_cases hdash : c = '-'
  · have hblank : (w ++ rest).head?.any isBlank = false := by
      have := hgap (.inr (.inr hdash))
      cases hcs : w ++ rest with
      | nil => rfl
      | cons x cs =>
        rw [hcs] at this
        exact (Bool.or_eq_false_iff.1 this).1
    simp only [hdash, hblank, beq_self_eq_true, if_true, Bool.not_false]
  by_cases hmark : c = '?' ∨ c = ':'
  · have := hgap (hmark.imp_right .inl)
    rcases hmark with rfl | rfl <;> simp [this]
  · have hblank : isBlank c = false := (h.inWord rest).blank
    have hindicator := h.notIndicator
    simp [isIndicator] at hindicator
    rw [not_or] at hmark
    simp [hdash, hmark, hblank, h.unbroken, hindicator]

/-- A plain scalar. -/
theorem token_plain {c : Char} {w rest cs' : List Char} {text : String} {broken : Bool}
    {p' : Place} (h : Plain c w) (hrest : ∀ x ∈ rest.head?, x ≠ '-' ∧ x ≠ '.')
    (hread : plainScalar false (l.indent + 1) ⟨c :: w ++ rest, p⟩ = .ok (text, broken, ⟨cs', p'⟩)) :
    token (.block (c :: w ++ rest) p l allowed none) =
      .ok (true, .block cs' p' (l.push [.scalar .plain text]) broken (notedKey allowed l p)) := by
  have hdash : atMarker '-' (c :: (w ++ rest)) = false :=
    atMarker_append (w := c :: w) (by simp) (fun hx => (hrest _ hx).1 rfl) h.notDashes
  have hpoint : atMarker '.' (c :: (w ++ rest)) = false :=
    atMarker_append (w := c :: w) (by simp) (fun hx => (hrest _ hx).2 rfl) h.notPoints
  have hmark {x : Char} (hx : x = '?' ∨ x = ':' ∨ x = '-') :
      (c == x && atGap (w ++ rest)) = false := by
    by_cases hc : c = x
    · rw [atGap_of_endsWord (h.unmarked (hc ▸ hx)), Bool.and_false]
    · simp [hc]
  have hne {x : Char} (hx : isIndicator x = true) : (c == x) = false :=
    beq_eq_false_iff_ne.2 (h.ne_of_isIndicator hx)
  refine token_of (x := plain) ?_ ?_
  · rw [token, bind_ok (run_get _), bind_ok inFlow_block]
    simp [Scanner.block, hdash, hpoint, hmark, startsPlain_of_plain h, hne (x := '%') (by decide),
      hne (x := '[') (by decide), hne (x := '\x7b') (by decide), hne (x := ']') (by decide),
      hne (x := '\x7d') (by decide), hne (x := ',') (by decide), hne (x := '*') (by decide),
      hne (x := '&') (by decide), hne (x := '!') (by decide), hne (x := '|') (by decide),
      hne (x := '>') (by decide), hne (x := '\'') (by decide), hne (x := '"') (by decide)]
  · rw [plain, keyScalar_block, bind_ok (run_get _), bind_ok inFlow_block, Scanner.indent_block,
      Scanner.cursor_block, bind_ok (run_lift hread _)]
    cases broken <;> rfl

/-- A scalar in quotes. -/
theorem token_quoted {double : Bool} {cs' : List Char} {text : String} {p' : Place}
    (hread : quotedScalar double ⟨quoteSign double :: cs, p⟩ = .ok (text, ⟨cs', p'⟩)) :
    token (.block (quoteSign double :: cs) p l allowed none) =
      .ok (true, .block cs' p'
        (l.push [.scalar (if double then .doubleQuoted else .singleQuoted) text]) false
        (notedKey allowed l p)) := by
  refine token_of (x := quoted double) ?_ ?_
  · rw [token, bind_ok (run_get _), bind_ok inFlow_block]
    cases double <;> simp [Scanner.block, quoteSign, atMarker_cons]
  · rw [quoted, keyScalar_block, bind_ok (run_get _), Scanner.cursor_block,
      bind_ok (run_lift hread _)]
    rfl

/-- A literal block. -/
theorem token_literal {cs' : List Char} {text : String} {p' : Place}
    (hread : blockScalar false l.indent ⟨'|' :: cs, p⟩ = .ok (text, ⟨cs', p'⟩)) :
    token (.block ('|' :: cs) p l allowed none) =
      .ok (true, .block cs' p' (l.push [.scalar .literal text]) true none) := by
  have hblock : block false (.block ('|' :: cs) p l allowed none) =
      (liftM (blockScalar false l.indent ⟨'|' :: cs, p⟩) >>= fun r => do
        setCursor r.2
        emit (.scalar .literal r.1)) (.block ('|' :: cs) p l true none) := rfl
  refine token_of (x := block false) ?_ ?_
  · rw [token, bind_ok (run_get _), bind_ok inFlow_block]
    simp [Scanner.block, atMarker_cons]
  · rw [hblock, bind_ok (run_lift hread _)]
    rfl

end Scan

end Provision.Yaml
