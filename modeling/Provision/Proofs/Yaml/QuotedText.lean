import Provision.Proofs.Yaml.PlainText

/-!
# Scalars in quotes are read back

How a text stands between quotes (`Quoted`): its characters, spelled in a word, spaces, and, in
single quotes, breaks with the spaces that begin the next line. Such a text is read up to the
closing quote (`quotedScalar_read`), and so are the texts that are written in single or double
quotes (`quoted_single`, `quoted_double`).
-/

namespace Provision.Yaml

/-- The sign around a quoted scalar. -/
def quoteSign (double : Bool) : Char := if double then '"' else '\''

/-- How a character stands in a word of a quoted scalar. -/
inductive Spelled : Bool → List Char → Char → Prop
  | self {double : Bool} {c : Char} (blank : isBlank c = false) (newline : isBreak c = false)
      (sign : c ≠ quoteSign double) (escape : double = true → c ≠ '\\') : Spelled double [c] c
  | twice : Spelled false ['\'', '\''] '\''
  | escape {x c : Char} {e : List Char} (newline : isBreak x = false)
      (read : ∀ rest p, escapeIn ⟨'\\' :: x :: (e ++ rest), p⟩ =
        .ok (c, ⟨rest, p.plus (e.length + 2)⟩)) : Spelled true ('\\' :: x :: e) c

/-- A text between quotes, and what is written for it; the flag says whether a break was just
written. -/
inductive Quoted (double : Bool) (column : Nat) : Bool → List Char → List Char → Prop
  | nil : Quoted double column false [] []
  | char {e w cs : List Char} {c : Char} (h : Spelled double e c)
      (hw : Quoted double column false w cs) : Quoted double column false (e ++ w) (c :: cs)
  | space {w cs : List Char} (h : ∀ x ∈ w.head?, isBreak x = false)
      (hw : Quoted double column false w cs) :
      Quoted double column false (' ' :: w) (' ' :: cs)
  | newline {broken : Bool} {c : Char} {w cs : List Char} (h : c = '\u2028' ∨ c = '\u2029')
      (hw : Quoted double column true w cs) : Quoted double column broken (c :: w) (c :: cs)
  | resume {w cs : List Char} (h : ∀ x ∈ w.head?, isBlank x = false ∧ isBreak x = false)
      (hw : Quoted double column false w cs) : Quoted double column true (spaces column ++ w) cs

/-- What spells a character begins a word. -/
theorem Spelled.head {double : Bool} {e : List Char} {c : Char} (h : Spelled double e c) :
    ∃ x xs, e = x :: xs ∧ isBlank x = false ∧ isBreak x = false := by
  cases h with
  | self blank newline => exact ⟨c, [], rfl, blank, newline⟩
  | twice => exact ⟨'\'', ['\''], rfl, rfl, rfl⟩
  | @escape x _ e => exact ⟨'\\', x :: e, rfl, rfl, rfl⟩

/-- A character of a word is read. -/
theorem quotedWord_spelled {double : Bool} {e : List Char} {c : Char} (h : Spelled double e c)
    (bound : Nat) (text rest : List Char) (p : Place) :
    quotedWord (bound + 1) double (.line text []) ⟨e ++ rest, p⟩ =
      quotedWord bound double (.line (c :: text) []) ⟨rest, p.plus e.length⟩ := by
  cases h with
  | self blank newline sign escape =>
    cases double with
    | false =>
      have hsign : (c == '\'') = false := beq_eq_false_iff_ne.2 sign
      simp [quotedWord, blank, newline, hsign, Pending.line]
    | true =>
      have hsign : (c == '"') = false := beq_eq_false_iff_ne.2 sign
      have hescape : (c == '\\') = false := beq_eq_false_iff_ne.2 (escape rfl)
      simp [quotedWord, blank, newline, hsign, hescape, Pending.line]
  | twice => rfl
  | @escape x c e newline read =>
    have hblank : isBlank '\\' = false := rfl
    have hbreak : isBreak '\\' = false := rfl
    simp [quotedWord, hblank, hbreak, newline, read, Pending.line]

/-! ## Reading -/

/-- The rest of a quoted scalar after a word of it. -/
def quotedTail (bound : Nat) (double : Bool) (q : Pending) (c : Cursor) :
    Except Problem (Pending × Cursor) :=
  if c.rest.head? == some (quoteSign double) then .ok (q, c.next)
  else skipSpacing c.rest.length none q c >>= fun r => quotedFrom bound double r.1.settle r.2

/-- A quoted scalar is read word by word. -/
theorem quotedFrom_succ {cs : List Char} {p : Place} (hp : 0 < p.column) (hcs : cs ≠ [])
    (bound : Nat) (double : Bool) (q : Pending) : quotedFrom (bound + 1) double q ⟨cs, p⟩ =
      (quotedWord cs.length double q ⟨cs, p⟩ >>= fun r => quotedTail bound double r.1 r.2) := by
  have hmarker : Cursor.atDocumentMarker ⟨cs, p⟩ = false := by
    simp [Cursor.atDocumentMarker, Nat.ne_of_gt hp]
  rw [quotedFrom]
  simp only [hmarker, List.isEmpty_eq_false_iff.2 hcs, Bool.false_eq_true, if_false]
  rfl

/-- Reading ends behind the closing quote after `w`, with a text. In one line every character
counts. -/
def ReadsTo (text rest w : List Char) (p : Place) (read : Except Problem (Pending × Cursor)) :
    Prop :=
  ∃ p', p.line ≤ p'.line ∧ ((∀ c ∈ w, isBreak c = false) → p' = p.plus (w.length + 1)) ∧
    read = .ok (.line text [], ⟨rest, p'⟩)

section

variable (double : Bool) (rest w cs : List Char)

/-- In a word a text is read up to the closing quote. -/
def ReadInWord : Prop := ∀ bound m text p, w.length ≤ bound → w.length ≤ m → 0 < p.column →
  ReadsTo (cs.reverse ++ text) rest w p
    (quotedWord m double (.line text []) ⟨w ++ quoteSign double :: rest, p⟩ >>= fun r =>
      quotedTail bound double r.1 r.2)

/-- After spaces a text is read up to the closing quote. -/
def ReadAfterSpace : Prop := ∀ bound m text blanks p, w.length < bound → w.length ≤ m →
  0 < p.column → ReadsTo (cs.reverse ++ (blanks ++ text)) rest w p
    (skipSpacing m none (.line text blanks) ⟨w ++ quoteSign double :: rest, p⟩ >>= fun r =>
      quotedFrom bound double r.1.settle r.2)

/-- After a break a text is read up to the closing quote. -/
def ReadAfterBreak : Prop := ∀ bound m text first more p, first ≠ '\n' → w.length < bound →
  w.length ≤ m → ReadsTo (cs.reverse ++ (more ++ first :: text)) rest w p
    (skipSpacing m none (.lines text first more) ⟨w ++ quoteSign double :: rest, p⟩ >>= fun r =>
      quotedFrom bound double r.1.settle r.2)

end

section

variable {double : Bool} {column : Nat} {rest w cs : List Char}

/-- A character that is read takes its place. -/
theorem ReadsTo.step {text : List Char} {p : Place} {e : List Char}
    {read : Except Problem (Pending × Cursor)} (h : ReadsTo text rest w (p.plus e.length) read) :
    ReadsTo text rest (e ++ w) p read := by
  obtain ⟨p', hline, hplace, hread⟩ := h
  refine ⟨p', hline, fun hw => ?_, hread⟩
  rw [hplace fun c hc => hw c (List.mem_append_right _ hc), Place.plus_plus, List.length_append,
    Nat.add_assoc]

/-- After a break reading goes on in the next line. -/
theorem ReadsTo.nextLine {text : List Char} {p : Place} {c : Char} (hc : isBreak c = true)
    {read : Except Problem (Pending × Cursor)} (h : ReadsTo text rest w p.newline read) :
    ReadsTo text rest (c :: w) p read := by
  obtain ⟨p', hline, -, hread⟩ := h
  refine ⟨p', Nat.le_of_succ_le hline, fun hw => ?_, hread⟩
  exact absurd (hw c (.head _)) (by simp [hc])

/-- If a text does not begin with a gap, neither does the text with the closing quote. -/
theorem head_quoteSign (hw : ∀ x ∈ w.head?, isBlank x = false ∧ isBreak x = false)
    (rest : List Char) : ∀ x ∈ (w ++ quoteSign double :: rest).head?,
      isBlank x = false ∧ isBreak x = false := by
  intro x hx
  cases w with
  | nil =>
    cases hx
    cases double <;> exact ⟨rfl, rfl⟩
  | cons y w => exact hw x hx

/-- The next character after spaces begins a word. -/
theorem ReadInWord.afterSpace (h : ReadInWord double rest w cs)
    (hw : ∀ x ∈ w.head?, isBlank x = false ∧ isBreak x = false) :
    ReadAfterSpace double rest w cs := by
  intro bound m text blanks p hb _ hp
  obtain ⟨n, rfl⟩ := Nat.exists_eq_add_of_le' (Nat.one_le_of_lt hb)
  have hskip : skipSpacing m none (.line text blanks) ⟨w ++ quoteSign double :: rest, p⟩ =
      .ok (.line text blanks, ⟨w ++ quoteSign double :: rest, p⟩) :=
    skipSpacing_of_head (head_quoteSign hw rest) ..
  rw [hskip]
  change ReadsTo _ _ _ _ (quotedFrom (n + 1) double (.line (blanks ++ text) []) _)
  rw [quotedFrom_succ hp (by simp)]
  exact h n _ _ p (Nat.le_of_lt_succ hb) (by simp) hp

/-- A break that is no line feed stays in the text. -/
theorem Pending.settle_lines {first : Char} (h : first ≠ '\n') (text more : List Char) :
    (Pending.lines text first more).settle = .line (more ++ first :: text) [] := by
  simp [settle, lines, line, h]

/-- The spaces at the beginning of a line are passed over. -/
theorem ReadInWord.afterBreak (h : ReadInWord double rest w cs) (hcolumn : 0 < column)
    (hw : ∀ x ∈ w.head?, isBlank x = false ∧ isBreak x = false) :
    ReadAfterBreak double rest (spaces column ++ w) cs := by
  intro bound m text first more p hfirst hb hm
  have hlength : (spaces column ++ w).length = column + w.length := by simp [spaces]
  obtain ⟨n, rfl⟩ := Nat.exists_eq_add_of_le' (Nat.one_le_of_lt hb)
  have hskip : skipSpacing m none (.lines text first more)
      ⟨spaces column ++ (w ++ quoteSign double :: rest), p⟩ =
        .ok (.lines text first more, ⟨w ++ quoteSign double :: rest, p.plus column⟩) :=
    skipSpacing_spaces rfl (head_quoteSign hw rest) none column m p (by omega)
  rw [List.append_assoc, hskip]
  change ReadsTo _ _ _ _ (quotedFrom (n + 1) double (Pending.lines text first more).settle _)
  have hplace : 0 < (p.plus column).column := by
    rw [Place.column_plus]
    omega
  rw [Pending.settle_lines hfirst, quotedFrom_succ hplace (by simp)]
  have hread := h n (w ++ quoteSign double :: rest).length (more ++ first :: text) (p.plus column)
    (by omega) (by simp) hplace
  refine ReadsTo.step (e := spaces column) ?_
  rwa [show (spaces column).length = column by simp [spaces]]

/-- A word ends at a gap. -/
theorem quotedWord_stop {cs : List Char} (h : ∀ x ∈ cs.head?, isBlank x = true ∨ isBreak x = true)
    (bound : Nat) (q : Pending) (p : Place) :
    quotedWord bound double q ⟨cs, p⟩ = .ok (q, ⟨cs, p⟩) := by
  cases bound with
  | zero => rfl
  | succ n =>
    cases cs with
    | nil => rfl
    | cons x cs => rcases h x rfl with h | h <;> simp [quotedWord, h]

/-- A word ends at the closing quote. -/
theorem quotedWord_sign (hrest : double = false → rest.head? ≠ some '\'') (bound : Nat)
    (q : Pending) (p : Place) :
    quotedWord bound double q ⟨quoteSign double :: rest, p⟩ =
      .ok (q, ⟨quoteSign double :: rest, p⟩) := by
  cases bound with
  | zero => rfl
  | succ n =>
    cases double with
    | true => rfl
    | false =>
      have hrest := hrest rfl
      cases rest with
      | nil => rfl
      | cons x rest =>
        have hx : x ≠ '\'' := fun hx => hrest (congrArg some hx)
        have hblank : isBlank '\'' = false := rfl
        have hbreak : isBreak '\'' = false := rfl
        simp [quotedWord, quoteSign, hblank, hbreak, hx]

/-- At the closing quote the text was read. -/
theorem readInWord_nil (hrest : double = false → rest.head? ≠ some '\'') :
    ReadInWord double rest [] [] := by
  intro bound m text p _ _ _
  refine ⟨p.plus 1, Nat.le_refl _, fun _ => rfl, ?_⟩
  rw [List.nil_append, quotedWord_sign hrest]
  change quotedTail bound double (.line text []) _ = _
  simp [quotedTail]

/-- A spelled character is read, and then the rest. -/
theorem ReadInWord.char {e : List Char} {c : Char} (he : Spelled double e c)
    (h : ReadInWord double rest w cs) : ReadInWord double rest (e ++ w) (c :: cs) := by
  intro bound m text p hb hm hp
  obtain ⟨x, xs, hx, -, -⟩ := he.head
  have hlength : 1 ≤ e.length := by simp [hx]
  rw [List.length_append] at hb hm
  obtain ⟨k, rfl⟩ := Nat.exists_eq_add_of_le' (show 1 ≤ m by omega)
  rw [List.append_assoc, quotedWord_spelled he, List.reverse_cons, List.append_assoc]
  have hp' : 0 < (p.plus e.length).column := by
    rw [Place.column_plus]
    omega
  exact (h bound k (c :: text) (p.plus e.length) (by omega) (by omega) hp').step

/-- A word that ends at a gap is followed by what is read after the gap. -/
theorem quotedTail_of_gap {x : Char} (hx : isBlank x = true ∨ isBreak x = true)
    (bound m : Nat) (q : Pending) (p : Place) (cs : List Char) :
    (quotedWord m double q ⟨x :: cs, p⟩ >>= fun r => quotedTail bound double r.1 r.2) =
      (skipSpacing (cs.length + 1) none q ⟨x :: cs, p⟩ >>= fun r =>
        quotedFrom bound double r.1.settle r.2) := by
  have hsign : x ≠ quoteSign double := by
    rintro rfl
    cases double <;> exact absurd hx (by decide)
  rw [quotedWord_stop (fun y hy => by cases hy; exact hx)]
  change quotedTail bound double q _ = _
  rw [quotedTail, if_neg (by simpa using hsign)]
  rfl

/-- A space ends a word, and the scalar is read on after it. -/
theorem ReadAfterSpace.word (h : ReadAfterSpace double rest w cs) :
    ReadInWord double rest (' ' :: w) (' ' :: cs) := by
  intro bound m text p hb _ _
  have hread := h bound (w ++ quoteSign double :: rest).length text [' '] (p.plus 1)
    (Nat.lt_of_succ_le hb) (by simp) (by simp)
  rw [List.cons_append, quotedTail_of_gap (.inl rfl), skipSpacing_space, List.reverse_cons,
    List.append_assoc]
  exact hread.step (e := [' '])

/-- A further space is passed over. -/
theorem ReadAfterSpace.space (h : ReadAfterSpace double rest w cs) :
    ReadAfterSpace double rest (' ' :: w) (' ' :: cs) := by
  intro bound m text blanks p hb hm _
  obtain ⟨k, rfl⟩ := Nat.exists_eq_add_of_le' (Nat.one_le_of_lt hm)
  have hread := h bound k text (' ' :: blanks) (p.plus 1) (Nat.lt_of_succ_lt hb)
    (Nat.le_of_succ_le_succ hm) (by simp)
  rw [List.cons_append, skipSpacing_space, List.reverse_cons, List.append_assoc]
  exact hread.step (e := [' '])

/-- The breaks that stand between quotes. -/
theorem keptBreak {c : Char} (hc : c = '\u2028' ∨ c = '\u2029') :
    isPrintable c = true ∧ isBreak c = true ∧ c ≠ '\n' := by
  rcases hc with rfl | rfl <;> decide

/-- A break ends a word, and the scalar is read on after it. -/
theorem ReadAfterBreak.word (h : ReadAfterBreak double rest w cs) {c : Char}
    (hc : c = '\u2028' ∨ c = '\u2029') : ReadInWord double rest (c :: w) (c :: cs) := by
  obtain ⟨hprint, hbreak, hne⟩ := keptBreak hc
  intro bound m text p hb _ _
  have hread := h bound (w ++ quoteSign double :: rest).length text c [] p.newline hne
    (Nat.lt_of_succ_le hb) (by simp)
  rw [List.cons_append, quotedTail_of_gap (.inr hbreak), skipSpacing_newline hprint hbreak,
    List.reverse_cons, List.append_assoc]
  exact hread.nextLine hbreak

/-- A further break is passed over. -/
theorem ReadAfterBreak.newline (h : ReadAfterBreak double rest w cs) {c : Char}
    (hc : c = '\u2028' ∨ c = '\u2029') : ReadAfterBreak double rest (c :: w) (c :: cs) := by
  obtain ⟨hprint, hbreak, -⟩ := keptBreak hc
  intro bound m text first more p hfirst hb hm
  obtain ⟨k, rfl⟩ := Nat.exists_eq_add_of_le' (Nat.one_le_of_lt hm)
  have hread := h bound k text first (c :: more) p.newline hfirst (Nat.lt_of_succ_lt hb)
    (Nat.le_of_succ_le_succ hm)
  rw [List.cons_append, skipSpacing_newline hprint hbreak, List.reverse_cons, List.append_assoc]
  exact hread.nextLine hbreak

end

/-- A text is read wherever reading may be in it. The induction follows how the text is written. -/
theorem Quoted.reads {double broken : Bool} {column : Nat} {rest w cs : List Char}
    (h : Quoted double column broken w cs) (hcolumn : 0 < column)
    (hrest : double = false → rest.head? ≠ some '\'') :
    (broken = false → ReadInWord double rest w cs ∧
      ((∀ x ∈ w.head?, isBreak x = false) → ReadAfterSpace double rest w cs)) ∧
    (broken = true → ReadAfterBreak double rest w cs) := by
  induction h with
  | nil => exact ⟨fun _ => ⟨readInWord_nil hrest, fun _ =>
      (readInWord_nil hrest).afterSpace nofun⟩, nofun⟩
  | @char e w cs c he hw ih =>
    have hword := (ih.1 rfl).1.char he
    refine ⟨fun _ => ⟨hword, fun _ => hword.afterSpace fun y hy => ?_⟩, nofun⟩
    obtain ⟨x, xs, rfl, hx⟩ := he.head
    cases hy
    exact hx
  | space hhead hw ih =>
    have hspace := (ih.1 rfl).2 hhead
    exact ⟨fun _ => ⟨hspace.word, fun _ => hspace.space⟩, nofun⟩
  | @newline broken c w cs hc hw ih =>
    have hbreak := ih.2 rfl
    refine ⟨fun _ => ⟨hbreak.word hc, fun h => ?_⟩, fun _ => hbreak.newline hc⟩
    exact absurd (h c rfl) (by simp [(keptBreak hc).2.1])
  | resume hhead hw ih => exact ⟨nofun, fun _ => (ih.1 rfl).1.afterBreak hcolumn hhead⟩

/-- A text between quotes is read. -/
theorem quotedScalar_read {double : Bool} {column : Nat} {w cs : List Char}
    (h : Quoted double column false w cs) (hcolumn : 0 < column) (rest : List Char)
    (hrest : double = false → rest.head? ≠ some '\'') (p : Place) :
    ∃ p', p.line ≤ p'.line ∧ ((∀ c ∈ w, isBreak c = false) → p' = p.plus (w.length + 2)) ∧
      quotedScalar double ⟨quoteSign double :: w ++ quoteSign double :: rest, p⟩ =
        .ok (String.ofList cs, ⟨rest, p'⟩) := by
  obtain ⟨p', hline, hplace, hread⟩ := ((h.reads hcolumn hrest).1 rfl).1
    (quoteSign double :: w ++ quoteSign double :: rest).length
    (w ++ quoteSign double :: rest).length [] (p.plus 1) (by simp; omega) (by simp) (by simp)
  refine ⟨p', hline, fun hw => ?_, ?_⟩
  · rw [hplace hw, Place.plus_plus, Nat.add_comm 1]
  · rw [quotedScalar, List.cons_append, Cursor.next_cons]
    have hfrom := quotedFrom_succ (p := p.plus 1) (by simp)
      (show w ++ quoteSign double :: rest ≠ [] by simp)
      (quoteSign double :: w ++ quoteSign double :: rest).length double (.line [] [])
    rw [hread] at hfrom
    change (quotedFrom _ double (.line [] []) _ >>= _) = _
    rw [List.cons_append] at hfrom
    simp only [hfrom]
    simp [bind, Except.bind, pure, Except.pure, Pending.result, Pending.line]

/-! ## Single quotes -/

/-- Such a pair begins a text or is in the rest of it. -/
theorem hasPair_cons (p q : Char → Bool) (c : Char) (cs : List Char) :
    hasPair p q (c :: cs) = (p c && cs.head?.any q || hasPair p q cs) := by
  cases cs <;> simp [hasPair]

/-- A text that can be written in single quotes and has no line feed. -/
structure AllowsQuotes (cs : List Char) : Prop where
  printable : ∀ c ∈ cs, isPrintable c = true
  noLineFeed : '\n' ∉ cs
  noIndentation : hasPair isBreak (· == ' ') cs = false
  noTrailing : hasPair (· == ' ') isBreak cs = false

namespace AllowsQuotes

variable {c : Char} {cs : List Char}

/-- The writer only writes texts in single quotes that allow for it. -/
theorem of_allowsSingleQuotes (h : allowsSingleQuotes cs = true) (hn : '\n' ∉ cs) :
    AllowsQuotes cs := by
  simp only [allowsSingleQuotes, needsEscapes, Bool.not_eq_true', Bool.or_eq_false_iff] at h
  obtain ⟨hind, hprint, htrail⟩ := h
  exact ⟨fun c hc => by simpa using List.any_eq_false.1 hprint c hc, hn, hind, htrail⟩

/-- A text that allows for quotes still does without its first character. -/
theorem tail (h : AllowsQuotes (c :: cs)) : AllowsQuotes cs where
  printable x hx := h.printable x (.tail _ hx)
  noLineFeed hn := h.noLineFeed (.tail _ hn)
  noIndentation := by
    have := h.noIndentation
    rw [hasPair_cons, Bool.or_eq_false_iff] at this
    exact this.2
  noTrailing := by
    have := h.noTrailing
    rw [hasPair_cons, Bool.or_eq_false_iff] at this
    exact this.2

/-- No space follows a break. -/
theorem head_ne_space (h : AllowsQuotes (c :: cs)) (hc : isBreak c = true) :
    cs.head? ≠ some ' ' := by
  have := h.noIndentation
  rw [hasPair_cons, hc, Bool.true_and, Bool.or_eq_false_iff] at this
  intro hhead
  simp [hhead] at this

/-- No break follows a space. -/
theorem head_not_break (h : AllowsQuotes (' ' :: cs)) : ∀ x ∈ cs.head?, isBreak x = false := by
  have := h.noTrailing
  rw [hasPair_cons, Bool.or_eq_false_iff] at this
  intro x hx
  have hany := this.1
  rw [hx] at hany
  simpa using hany

/-- The breaks of such a text are the two separators. -/
theorem break_cases (h : AllowsQuotes (c :: cs)) (hc : isBreak c = true) :
    c = '\u2028' ∨ c = '\u2029' :=
  (isBreak_of_isPrintable (h.printable c (.head _)) hc).resolve_left fun hn =>
    h.noLineFeed (hn ▸ .head _)

end AllowsQuotes

/-- A text begins between single quotes with its first character. -/
theorem head_singleQuotedBody (column : Nat) (cs : List Char) :
    (singleQuotedBody column false cs).head? = cs.head? := by
  cases cs with
  | nil => rfl
  | cons c cs =>
    rw [singleQuotedBody]
    split
    · rfl
    · by_cases hc : c = '\''
      · simp [hc]
      · simp [hc]

/-- How a character is spelled between single quotes. -/
theorem spelled_single {c : Char} (hblank : isBlank c = false) (hbreak : isBreak c = false) :
    Spelled false (if c == '\'' then ['\'', '\''] else [c]) c := by
  split
  · next hq =>
    obtain rfl := beq_iff_eq.1 hq
    exact .twice
  · next hq => exact .self hblank hbreak (by simpa [quoteSign] using hq) nofun

/-- A text that allows them is written in single quotes. -/
theorem quoted_single (column : Nat) {cs : List Char} (h : AllowsQuotes cs) :
    ∀ broken, (broken = true → cs.head? ≠ some ' ') →
      Quoted false column broken (singleQuotedBody column broken cs) cs := by
  induction cs with
  | nil =>
    intro broken _
    cases broken with
    | false => exact .nil
    | true =>
      have hnil : Quoted false column true (spaces column ++ []) [] := .resume nofun .nil
      rwa [List.append_nil] at hnil
  | cons c cs ih =>
    intro broken hbroken
    rw [singleQuotedBody]
    split
    · next hc => exact .newline (h.break_cases hc) (ih h.tail true fun _ => h.head_ne_space hc)
    · next hc =>
      have hrest := ih h.tail false nofun
      have hc : isBreak c = false := by simpa using hc
      by_cases hspace : c = ' '
      · subst hspace
        have hb : broken = false := by simpa using hbroken
        subst hb
        refine Quoted.space (w := singleQuotedBody column false cs) (fun x hx => ?_) hrest
        rw [head_singleQuotedBody] at hx
        exact h.head_not_break x hx
      · have hblank : isBlank c = false := by
          rw [isBlank_of_isPrintable (h.printable c (.head _)), beq_eq_false_iff_ne]
          exact hspace
        have hspelled := spelled_single hblank hc
        have hword := Quoted.char hspelled hrest
        cases broken with
        | false => exact hword
        | true =>
          rw [if_pos rfl, List.append_assoc]
          refine .resume (fun x hx => ?_) hword
          obtain ⟨y, ys, he, hy⟩ := hspelled.head
          rw [he] at hx
          cases hx
          exact hy

/-! ## Double quotes -/

/-- A digit of base sixteen is read back. -/
theorem hexDigit?_digit : ∀ d < 16,
    Json.hexDigit? (if d < 10 then Char.ofNat ('0'.toNat + d)
      else Char.ofNat ('A'.toNat + (d - 10))) = some d := by decide

/-- So many digits are written. -/
theorem length_hexDigits (k n : Nat) : (hexDigits k n).length = k := by
  induction k generalizing n with
  | zero => rfl
  | succ k ih => simp [hexDigits, ih]

/-- Hexadecimal digits are read as the number that they write. -/
theorem foldlM_hexDigits (k : Nat) : ∀ n v, n < Nat.pow 16 k →
    (hexDigits k n).foldlM (fun v d => do return v * 16 + (← Json.hexDigit? d)) v =
      some (v * Nat.pow 16 k + n) := by
  induction k with
  | zero =>
    intro n v hn
    obtain rfl : n = 0 := Nat.lt_one_iff.1 hn
    exact congrArg some (Nat.mul_one v).symm
  | succ k ih =>
    intro n v hn
    have hpow : Nat.pow 16 (k + 1) = Nat.pow 16 k * 16 := Nat.pow_succ _ _
    rw [hpow] at hn ⊢
    have hdigit := hexDigit?_digit (n % 16) (by omega)
    rw [hexDigits, List.foldlM_append, ih (n / 16) v (by omega)]
    simp only [Option.bind_eq_bind, Option.bind_some, List.foldlM_cons, List.foldlM_nil, hdigit,
      Option.pure_def, Option.some.injEq]
    rw [Nat.add_mul, Nat.mul_assoc]
    omega

/-- A character that is escaped by its number is read. -/
theorem escapeIn_number {x : Char} {k : Nat} (hx : letterEscape? x = none)
    (hk : hexEscape? x = some k) {c : Char} (hc : c.toNat < Nat.pow 16 k) (rest : List Char)
    (p : Place) : escapeIn ⟨'\\' :: x :: (hexDigits k c.toNat ++ rest), p⟩ =
      .ok (c, ⟨rest, p.plus (k + 2)⟩) := by
  have hnumber : hexNumber? k (hexDigits k c.toNat ++ rest) = some c.toNat := by
    have htake : (hexDigits k c.toNat ++ rest).take k = hexDigits k c.toNat := by
      rw [List.take_append_of_le_length (Nat.le_of_eq (length_hexDigits k c.toNat).symm),
        List.take_of_length_le (Nat.le_of_eq (length_hexDigits k c.toNat))]
    have hlength : ((hexDigits k c.toNat).length == k) = true := by simp [length_hexDigits]
    have hdigits := foldlM_hexDigits k c.toNat 0 hc
    rw [Nat.zero_mul, Nat.zero_add] at hdigits
    rw [hexNumber?, htake, hlength]
    exact hdigits
  have hvalid :
      ((0xD800 ≤ c.toNat && c.toNat ≤ 0xDFFF) || decide (0x10FFFF < c.toNat)) = false := by
    have hscalar : c.toNat.isValidChar := c.valid
    simp only [Nat.isValidChar] at hscalar
    simp only [Bool.or_eq_false_iff, Bool.and_eq_false_iff, decide_eq_false_iff_not]
    omega
  simp only [escapeIn, hx, hk, hnumber, hvalid, Char.ofNat_toNat, Bool.false_eq_true, if_false]
  have hforward := Cursor.forward_append ('\\' :: x :: hexDigits k c.toNat) rest p
  simp only [List.length_cons, length_hexDigits, List.cons_append] at hforward
  rw [Nat.add_comm 2 k, hforward]

/-- A digit of base sixteen is no break. -/
theorem inLine_digit : ∀ d < 16, InLine
    (if d < 10 then Char.ofNat ('0'.toNat + d) else Char.ofNat ('A'.toNat + (d - 10))) := by
  decide

/-- Digits are no breaks. -/
theorem inLine_hexDigits (k n : Nat) : ∀ c ∈ hexDigits k n, InLine c := by
  induction k generalizing n with
  | zero => nofun
  | succ k ih =>
    intro c hc
    rcases List.mem_append.1 hc with hc | hc
    · exact ih _ c hc
    · rw [List.mem_singleton.1 hc]
      exact inLine_digit (n % 16) (by omega)

/-- An escape of a character: a backslash with characters of the same line after it, which are few
unless the character's number is large. -/
structure IsEscape (c x : Char) (e : List Char) : Prop where
  inLine : ∀ y ∈ x :: e, InLine y
  length : c.toNat ≤ 0xFFFF → e.length ≤ 4
  read : ∀ rest p, escapeIn ⟨'\\' :: x :: (e ++ rest), p⟩ = .ok (c, ⟨rest, p.plus (e.length + 2)⟩)

/-- A character is escaped by its number, if its sign takes enough digits. -/
theorem IsEscape.number {c x : Char} {k : Nat} (hx : InLine x) (hletter : letterEscape? x = none)
    (hk : hexEscape? x = some k) (hc : c.toNat < Nat.pow 16 k)
    (hlength : c.toNat ≤ 0xFFFF → k ≤ 4) : IsEscape c x (hexDigits k c.toNat) where
  inLine y hy := by
    rcases List.mem_cons.1 hy with rfl | hy
    · exact hx
    · exact inLine_hexDigits _ _ y hy
  length h := by
    rw [length_hexDigits]
    exact hlength h
  read rest p := by
    rw [length_hexDigits]
    exact escapeIn_number hletter hk hc rest p

/-- Every character that is escaped has an escape. -/
theorem escaped_cases (c : Char) : ∃ x e, escaped c = '\\' :: x :: e ∧ IsEscape c x e := by
  unfold escaped
  split
  case h_15 =>
    dsimp only
    split
    · next h =>
      exact ⟨'x', _, rfl, .number (by decide) rfl rfl (Nat.lt_succ_of_le h) fun _ => by decide⟩
    · split
      · next h =>
        exact ⟨'u', _, rfl, .number (by decide) rfl rfl (Nat.lt_succ_of_le h) fun _ => by decide⟩
      · next h =>
        have hscalar : c.toNat.isValidChar := c.valid
        simp only [Nat.isValidChar] at hscalar
        have hpow : Nat.pow 16 8 = 4294967296 := rfl
        exact ⟨'U', _, rfl, .number (by decide) rfl rfl (by omega) fun hc => absurd hc h⟩
  all_goals
    refine ⟨_, [], rfl, fun y hy => ?_, fun _ => Nat.zero_le _, fun _ _ => rfl⟩
    rw [List.mem_singleton.1 hy]
    decide

/-- What is written for a character in double quotes. -/
def doubleQuotedChar (c : Char) : List Char :=
  if !isPrintable c || isBreak c || c == '"' || c == '\\' then escaped c else [c]

/-- Characters are written in double quotes each by itself. -/
theorem doubleQuotedBody_cons (c : Char) (cs : List Char) :
    doubleQuotedBody (c :: cs) = doubleQuotedChar c ++ doubleQuotedBody cs := rfl

/-- A character is written in double quotes as it is, or with an escape. -/
theorem doubleQuotedChar_cases (c : Char) :
    (doubleQuotedChar c = [c] ∧ InLine c ∧ c ≠ '"' ∧ c ≠ '\\') ∨
    ∃ x e, doubleQuotedChar c = '\\' :: x :: e ∧ IsEscape c x e ∧ e.length ≤ 4 := by
  unfold doubleQuotedChar
  split
  · next h =>
    obtain ⟨x, e, heq, he⟩ := escaped_cases c
    refine .inr ⟨x, e, heq, he, he.length ?_⟩
    simp only [isPrintable, isBreak, Bool.or_eq_true, Bool.not_eq_true', Bool.or_eq_false_iff,
      Bool.and_eq_false_iff, decide_eq_false_iff_not, beq_iff_eq] at h
    rcases h with ((h | h) | rfl) | rfl
    · omega
    · rcases h with (((rfl | rfl) | rfl) | rfl) | rfl <;> decide
    · decide
    · decide
  · next h =>
    simp only [Bool.or_eq_true, Bool.not_eq_true', beq_iff_eq, not_or, Bool.not_eq_false,
      Bool.not_eq_true] at h
    exact .inl ⟨rfl, ⟨h.1.1.1, h.1.1.2⟩, h.1.2, h.2⟩

/-- Nothing that is written for a character in double quotes is a break. -/
theorem inLine_doubleQuotedChar (c : Char) : ∀ y ∈ doubleQuotedChar c, InLine y := by
  obtain ⟨heq, hc, -⟩ | ⟨x, e, heq, he, -⟩ := doubleQuotedChar_cases c
  · rw [heq]
    exact fun y hy => List.mem_singleton.1 hy ▸ hc
  · rw [heq]
    intro y hy
    rcases List.mem_cons.1 hy with rfl | hy
    · decide
    · exact he.inLine y hy

/-- Nothing that is written in double quotes is a break. -/
theorem inLine_doubleQuotedBody (cs : List Char) : ∀ y ∈ doubleQuotedBody cs, InLine y := by
  intro y hy
  obtain ⟨c, -, hc⟩ := List.mem_flatMap.1 hy
  exact inLine_doubleQuotedChar c y hc

/-- For each character at most six are written in double quotes. -/
theorem length_doubleQuotedBody (cs : List Char) :
    (doubleQuotedBody cs).length ≤ 6 * cs.length := by
  induction cs with
  | nil => exact Nat.zero_le _
  | cons c cs ih =>
    have hc : (doubleQuotedChar c).length ≤ 6 := by
      obtain ⟨heq, -⟩ | ⟨x, e, heq, -, he⟩ := doubleQuotedChar_cases c
      · rw [heq, List.length_singleton]
        decide
      · rw [heq, List.length_cons, List.length_cons]
        omega
    rw [doubleQuotedBody_cons, List.length_append, List.length_cons]
    omega

/-- Any text is written in double quotes. -/
theorem quoted_double (column : Nat) (cs : List Char) :
    Quoted true column false (doubleQuotedBody cs) cs := by
  induction cs with
  | nil => exact .nil
  | cons c cs ih =>
    rw [doubleQuotedBody_cons]
    obtain ⟨heq, hc, hsign, hescape⟩ | ⟨x, e, heq, he, -⟩ := doubleQuotedChar_cases c
    · rw [heq]
      by_cases hspace : c = ' '
      · subst hspace
        exact .space (fun x hx => (inLine_doubleQuotedBody cs x (List.mem_of_mem_head? hx)).2) ih
      · have hblank : isBlank c = false := by
          rw [isBlank_of_isPrintable hc.1, beq_eq_false_iff_ne]
          exact hspace
        exact .char (.self hblank hc.2 hsign fun _ => hescape) ih
    · rw [heq]
      exact .char (.escape (he.inLine x (.head _)).2 he.read) ih

end Provision.Yaml
