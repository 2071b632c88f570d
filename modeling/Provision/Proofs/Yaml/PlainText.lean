import Provision.Proofs.Yaml.Cursors

/-!
# Plain scalars are read back

A text that is written plainly is read up to the colon after it, where it is a key, or up to the
break at the end of its line (`plainScalar_key`, `plainScalar_line`).
-/

namespace Provision.Yaml

/-- What was read of a line, with the blanks at its end. -/
def Pending.line (text blanks : List Char) : Pending := ⟨text, blanks, [], [], false⟩

/-- What was read up to the break at the end of a line. -/
def Pending.lines (text : List Char) (first : Char) (more : List Char) : Pending :=
  ⟨text, [], [first], more, true⟩

/-- A character after blanks makes these part of the line. -/
theorem Pending.push_line (text blanks : List Char) (c : Char) :
    (Pending.line text blanks).push c = .line (c :: (blanks ++ text)) [] := rfl

/-- No spacing is skipped before a character of a word. -/
theorem skipSpacing_of_head {cs : List Char}
    (h : ∀ x ∈ cs.head?, isBlank x = false ∧ isBreak x = false)
    (bound : Nat) (indent : Option Int) (q : Pending) (p : Place) :
    skipSpacing bound indent q ⟨cs, p⟩ = .ok (q, ⟨cs, p⟩) := by
  cases bound with
  | zero => rfl
  | succ n =>
    cases cs with
    | nil => rfl
    | cons x cs =>
      obtain ⟨hblank, hbreak⟩ := h x rfl
      simp [skipSpacing, hblank, hbreak]

/-- A space is noted and skipped. -/
theorem skipSpacing_space (bound : Nat) (indent : Option Int) (text blanks cs : List Char)
    (p : Place) : skipSpacing (bound + 1) indent (.line text blanks) ⟨' ' :: cs, p⟩ =
      skipSpacing bound indent (.line text (' ' :: blanks)) ⟨cs, p.plus 1⟩ := by
  cases indent <;> rfl

/-- A break is noted and skipped. -/
theorem skipSpacing_newline {c : Char} {cs : List Char} (h : isPrintable c = true)
    (hb : isBreak c = true) (bound : Nat) (indent : Option Int) (q : Pending) (p : Place) :
    skipSpacing (bound + 1) indent q ⟨c :: cs, p⟩ =
      skipSpacing bound indent (q.newline [c]) ⟨cs, p.newline⟩ := by
  have hblank : isBlank c = false := by
    rcases isBreak_of_isPrintable h hb with rfl | rfl | rfl <;> rfl
  simp [skipSpacing, hblank, hb, lineBreak_cons h hb]

/-- The spaces at the beginning of a line do not count. -/
theorem skipSpacing_spaces {q : Pending} (hq : q.broken = true) {cs : List Char}
    (h : ∀ x ∈ cs.head?, isBlank x = false ∧ isBreak x = false) (indent : Option Int) (n : Nat) :
    ∀ (bound : Nat) (p : Place), n ≤ bound →
      skipSpacing bound indent q ⟨spaces n ++ cs, p⟩ = .ok (q, ⟨cs, p.plus n⟩) := by
  induction n with
  | zero => exact fun bound p _ => skipSpacing_of_head h bound indent q p
  | succ n ih =>
    intro bound p hn
    obtain ⟨m, rfl⟩ := Nat.exists_eq_add_of_le' (Nat.one_le_of_lt hn)
    have hstep : skipSpacing (m + 1) indent q ⟨' ' :: (spaces n ++ cs), p⟩ =
        skipSpacing m indent q ⟨spaces n ++ cs, p.plus 1⟩ := by
      cases indent <;> simp [skipSpacing, isBlank, Pending.blank, hq]
    have hcons : spaces (n + 1) ++ cs = ' ' :: (spaces n ++ cs) := rfl
    rw [hcons, hstep, ih m _ (by omega), Place.plus_plus, Nat.add_comm]

/-! ## Words -/

/-- The rest of a plain scalar after a word of it. -/
def plainTail (bound : Nat) (indent : Int) (q : Pending) (c : Cursor) :
    Except Problem (Pending × Cursor) :=
  match c.rest with
  | [] => .ok (q, c)
  | x :: _ =>
    if isBlank x || isBreak x then
      skipSpacing c.rest.length (some indent) q c >>= fun r =>
        if r.2.place.column < indent then .ok r else plainFrom bound false indent r.1 r.2
    else .ok (q, c)

/-- A plain scalar is read word by word. -/
theorem plainFrom_succ {c : Cursor} (h : c.atDocumentMarker = false)
    (hc : c.rest.head? ≠ some '#') (bound : Nat) (indent : Int) (q : Pending) :
    plainFrom (bound + 1) false indent q c =
      (plainWord c.rest.length false q c >>= fun r => plainTail bound indent r.1 r.2) := by
  rw [plainFrom]
  simp only [h, Bool.false_or, beq_eq_false_iff_ne.2 hc, Bool.false_eq_true, if_false]
  refine bind_congr fun r => ?_
  simp only [Bool.not_false, Bool.true_and, decide_eq_true_eq]
  rfl

/-- The text goes on with a character of a word. -/
structure InWord (c : Char) (cs : List Char) : Prop where
  blank : isBlank c = false
  newline : isBreak c = false
  colon : c = ':' → atGap cs = false

/-- A character of a word is added to it. -/
theorem plainWord_cons {c : Char} {cs : List Char} (h : InWord c cs) (bound : Nat)
    (text blanks : List Char) (p : Place) :
    plainWord (bound + 1) false (.line text blanks) ⟨c :: cs, p⟩ =
      plainWord bound false (.line (c :: (blanks ++ text)) []) ⟨cs, p.plus 1⟩ := by
  have hends : endsPlain false (c :: cs) = false := by
    by_cases hc : c = ':'
    · subst hc
      exact h.colon rfl
    · unfold endsPlain
      split <;> simp_all
  simp only [plainWord, Bool.false_and, hends, h.blank, h.newline, Bool.or_self,
    Bool.false_eq_true, if_false, Pending.push_line, Cursor.next_cons]

/-- A word ends at a gap, or at a colon before one. -/
theorem plainWord_stop {cs : List Char}
    (h : endsPlain false cs = true ∨ ∀ x ∈ cs.head?, isBlank x = true ∨ isBreak x = true)
    (bound : Nat) (q : Pending) (p : Place) :
    plainWord bound false q ⟨cs, p⟩ = .ok (q, ⟨cs, p⟩) := by
  cases bound with
  | zero => rfl
  | succ n =>
    cases cs with
    | nil => rfl
    | cons x cs =>
      rcases h with h | h
      · simp [plainWord, h]
      · rcases h x rfl with h | h <;> simp [plainWord, h]

/-! ## Texts -/

/-- A text that may go on a plain scalar after the character `before`. -/
structure GoesOn (before : Char) (w : List Char) : Prop where
  unmarked : isMarkedWithin before w = false
  printable : ∀ c ∈ w, isPrintable c = true
  unbroken : ∀ c ∈ w, isBreak c = false
  closed : w.getLast? ≠ some ' '

namespace GoesOn

variable {before c : Char} {w : List Char}

/-- What goes on a scalar still does after its first character. -/
theorem tail (h : GoesOn before (c :: w)) : GoesOn c w where
  unmarked := (Bool.or_eq_false_iff.1 h.unmarked).2
  printable x hx := h.printable x (.tail _ hx)
  unbroken x hx := h.unbroken x (.tail _ hx)
  closed hlast := h.closed (by rw [List.getLast?_cons, hlast]; rfl)

/-- A scalar does not end with a space. -/
theorem ne_nil_of_space (h : GoesOn before (' ' :: w)) : w ≠ [] := by
  rintro rfl
  exact h.closed rfl

/-- What goes on a scalar and is no space belongs to a word. -/
theorem inWord (h : GoesOn before (c :: w)) (hc : c ≠ ' ') (rest : List Char) :
    InWord c (w ++ rest) where
  blank := by rw [isBlank_of_isPrintable (h.printable c (.head _)), beq_eq_false_iff_ne]; exact hc
  newline := h.unbroken c (.head _)
  colon hcolon := by
    subst hcolon
    have hends : endsWord w = false := by
      have := (Bool.or_eq_false_iff.1 (Bool.or_eq_false_iff.1 h.unmarked).1).1
      simpa using this
    cases w with
    | nil => cases hends
    | cons x w =>
      simp only [endsWord, Bool.or_eq_false_iff] at hends
      simp [atGap, hends]

/-- No comment begins in a plain scalar. -/
theorem ne_comment (h : GoesOn ' ' (c :: w)) : c ≠ '#' := by
  rintro rfl
  have := (Bool.or_eq_false_iff.1 (Bool.or_eq_false_iff.1 h.unmarked).1).2
  exact absurd this (by decide)

end GoesOn

section

variable (indent : Int) (rest : List Char)
  (F : List Char → Place → Except Problem (Pending × Cursor)) (w : List Char)

/-- In a word a text is read up to the end of the scalar, where `F` says what is read. -/
def PlainInWord : Prop := ∀ bound m text (p : Place), indent ≤ p.column → w.length ≤ bound →
  w.length ≤ m →
    (plainWord m false (.line text []) ⟨w ++ rest, p⟩ >>= fun r =>
      plainTail bound indent r.1 r.2) = F (w.reverse ++ text) (p.plus w.length)

/-- After spaces a text is read up to the end of the scalar. -/
def PlainAfterSpace : Prop := ∀ bound m text blanks (p : Place), 0 < p.column →
  indent ≤ p.column → w.length ≤ bound → w.length ≤ m →
    (skipSpacing m (some indent) (.line text blanks) ⟨w ++ rest, p⟩ >>= fun r =>
      if r.2.place.column < indent then .ok r else plainFrom bound false indent r.1 r.2) =
        F (w.reverse ++ (blanks ++ text)) (p.plus w.length)

end

section

variable {indent : Int} {rest w : List Char}
  {F : List Char → Place → Except Problem (Pending × Cursor)}

/-- The next column is further from the indentation. -/
theorem Place.le_column_next {p : Place} (h : indent ≤ p.column) : indent ≤ (p.plus 1).column := by
  rw [Place.column_plus]
  omega

/-- Where a scalar ends, it was read as is said of its end. -/
theorem plainInWord_nil
    (hstop : endsPlain false rest = true ∨ ∀ x ∈ rest.head?, isBlank x = true ∨ isBreak x = true)
    (hfin : ∀ bound text p, indent ≤ p.column →
      plainTail bound indent (.line text []) ⟨rest, p⟩ = F text p) :
    PlainInWord indent rest F [] := by
  intro bound m text p hp _ _
  rw [List.nil_append, plainWord_stop hstop]
  exact hfin bound text p hp

/-- A character of a word is read, and then the rest. -/
theorem PlainInWord.char {c : Char} (h : PlainInWord indent rest F w)
    (hc : InWord c (w ++ rest)) : PlainInWord indent rest F (c :: w) := by
  intro bound m text p hp hb hm
  obtain ⟨m, rfl⟩ := Nat.exists_eq_add_of_le' (Nat.one_le_of_lt hm)
  rw [List.cons_append, plainWord_cons hc, List.nil_append,
    h bound m (c :: text) (p.plus 1) (Place.le_column_next hp) (Nat.le_of_succ_le hb)
      (Nat.le_of_succ_le_succ hm), List.length_cons, List.reverse_cons, Place.plus_plus,
    Nat.add_comm, List.append_assoc]
  rfl

/-- A space ends a word, and the scalar is read on after it. -/
theorem PlainAfterSpace.word (h : PlainAfterSpace indent rest F w) :
    PlainInWord indent rest F (' ' :: w) := by
  intro bound m text p hp hb _
  have hspace := h bound (w ++ rest).length text [' '] (p.plus 1) (by simp)
    (Place.le_column_next hp) (Nat.le_of_succ_le hb) (by simp)
  rw [Place.plus_plus, Nat.add_comm, ← skipSpacing_space] at hspace
  rw [List.cons_append, plainWord_stop (.inr fun x hx => .inl (by cases hx; rfl)),
    List.length_cons, List.reverse_cons, List.append_assoc]
  exact hspace

/-- A further space is passed over. -/
theorem PlainAfterSpace.space (h : PlainAfterSpace indent rest F w) :
    PlainAfterSpace indent rest F (' ' :: w) := by
  intro bound m text blanks p _ hp hb hm
  obtain ⟨m, rfl⟩ := Nat.exists_eq_add_of_le' (Nat.one_le_of_lt hm)
  rw [List.cons_append, skipSpacing_space, h bound m text (' ' :: blanks) (p.plus 1) (by simp)
      (Place.le_column_next hp) (Nat.le_of_succ_le hb) (Nat.le_of_succ_le_succ hm),
    List.length_cons, List.reverse_cons, Place.plus_plus, Nat.add_comm, List.append_assoc]
  rfl

/-- The next word after spaces goes on the scalar, unless it begins a comment. -/
theorem PlainInWord.afterSpace {c : Char} (h : PlainInWord indent rest F w)
    (hc : InWord c (w ++ rest)) (hcomment : c ≠ '#') :
    PlainAfterSpace indent rest F (c :: w) := by
  intro bound m text blanks p hpos hp hb hm
  obtain ⟨n, rfl⟩ := Nat.exists_eq_add_of_le' (Nat.one_le_of_lt hb)
  have hskip : skipSpacing m (some indent) (.line text blanks) ⟨c :: (w ++ rest), p⟩ =
      .ok (.line text blanks, ⟨c :: (w ++ rest), p⟩) :=
    skipSpacing_of_head (fun x hx => by cases hx; exact ⟨hc.blank, hc.newline⟩) ..
  have hmarker : Cursor.atDocumentMarker ⟨c :: (w ++ rest), p⟩ = false := by
    simp [Cursor.atDocumentMarker, Nat.ne_of_gt hpos]
  have hrest := h n (w ++ rest).length (c :: (blanks ++ text)) (p.plus 1)
    (Place.le_column_next hp) (Nat.le_of_succ_le_succ hb) (by simp)
  rw [List.cons_append, hskip]
  change (if (p.column : Int) < indent then _ else _) = _
  rw [if_neg (Int.not_lt.2 hp), plainFrom_succ hmarker (by simpa using hcomment)]
  change (plainWord ((w ++ rest).length + 1) _ _ _ >>= _) = _
  rw [plainWord_cons hc, hrest, List.length_cons, List.reverse_cons, Place.plus_plus,
    Nat.add_comm, List.append_assoc]
  rfl

/-- A text is read character by character, within a word and after a space. -/
theorem GoesOn.reads
    (hstop : endsPlain false rest = true ∨ ∀ x ∈ rest.head?, isBlank x = true ∨ isBreak x = true)
    (hfin : ∀ bound text p, indent ≤ p.column →
      plainTail bound indent (.line text []) ⟨rest, p⟩ = F text p) :
    ∀ {before}, GoesOn before w → PlainInWord indent rest F w ∧
      (before = ' ' → w ≠ [] → PlainAfterSpace indent rest F w) := by
  induction w with
  | nil => exact fun _ => ⟨plainInWord_nil hstop hfin, fun _ hw => absurd rfl hw⟩
  | cons c w ih =>
    intro before h
    obtain ⟨hword, hspace⟩ := ih h.tail
    -- a space ends the word, and any other character goes on one or begins the next
    by_cases hc : c = ' '
    · subst hc
      have hafter := hspace rfl h.ne_nil_of_space
      exact ⟨hafter.word, fun _ _ => hafter.space⟩
    · have hin := h.inWord hc rest
      refine ⟨hword.char hin, fun hbefore _ => hword.afterSpace hin ?_⟩
      subst hbefore
      exact h.ne_comment

end

/-- A text that can be written plainly: its first character and the rest. -/
structure Plain (c : Char) (w : List Char) : Prop where
  goesOn : GoesOn c w
  printable : isPrintable c = true
  unbroken : isBreak c = false
  notSpace : c ≠ ' '
  notIndicator : isIndicator c = false
  notDashes : (c :: w).take 3 ≠ ['-', '-', '-']
  notPoints : (c :: w).take 3 ≠ ['.', '.', '.']
  unmarked : c = '?' ∨ c = ':' ∨ c = '-' → endsWord w = false

/-- The writer only writes texts plainly that allow for it. -/
theorem Plain.of_allowsPlain {c : Char} {w : List Char} (h : allowsPlain (c :: w) = true) :
    Plain c w := by
  simp only [allowsPlain, needsEscapes, beginsMarked, Bool.not_eq_true', Bool.or_eq_false_iff,
    beq_eq_false_iff_ne, List.any_cons] at h
  obtain ⟨⟨⟨⟨⟨⟨⟨⟨hdashes, hpoints⟩, hindicator⟩, hmarked⟩, hwithin⟩, hbreaks⟩, hhead⟩, hlast⟩,
    hprint, -⟩ := h
  refine ⟨⟨hwithin, fun x hx => ?_, fun x hx => ?_, fun hw => hlast ?_⟩, by simpa using hprint.1,
    hbreaks.1, fun hc => ?_, hindicator, hdashes, hpoints, fun hc => ?_⟩
  · simpa using List.any_eq_false.1 hprint.2 x hx
  · simpa using List.any_eq_false.1 hbreaks.2 x hx
  · rw [List.getLast?_cons, hw]
    rfl
  · simp [hc] at hhead
  · rcases hc with rfl | rfl | rfl <;> simpa using hmarked

/-- Characters that do not go on a document marker do not complete one. -/
theorem atMarker_append {c : Char} {w rest : List Char} (hw : w ≠ [])
    (hrest : rest.head? ≠ some c) (h : w.take 3 ≠ [c, c, c]) : atMarker c (w ++ rest) = false := by
  rcases w with _ | ⟨x, _ | ⟨y, _ | ⟨z, w⟩⟩⟩ <;> rcases rest with _ | ⟨a, _ | ⟨b, _⟩⟩ <;>
    simp_all [atMarker]

/-- Where no word ends, there is no gap. -/
theorem atGap_of_endsWord {w : List Char} (h : endsWord w = false) (rest : List Char) :
    atGap (w ++ rest) = false := by
  cases w with
  | nil => cases h
  | cons x w =>
    simp only [endsWord, Bool.or_eq_false_iff] at h
    simp [atGap, h]

namespace Plain

variable {c : Char} {w : List Char}

/-- A plain text is no mark of a document. -/
theorem atDocumentMarker (h : Plain c w) {rest : List Char}
    (hrest : ∀ x ∈ rest.head?, x ≠ '-' ∧ x ≠ '.') (p : Place) :
    Cursor.atDocumentMarker ⟨c :: (w ++ rest), p⟩ = false := by
  have hdash : atMarker '-' (c :: w ++ rest) = false :=
    atMarker_append (by simp) (fun hx => (hrest _ hx).1 rfl) h.notDashes
  have hpoint : atMarker '.' (c :: w ++ rest) = false :=
    atMarker_append (by simp) (fun hx => (hrest _ hx).2 rfl) h.notPoints
  rw [List.cons_append] at hdash hpoint
  rw [Cursor.atDocumentMarker, hdash, hpoint]
  exact Bool.and_false _

/-- A plain text begins with a character of a word. -/
theorem inWord (h : Plain c w) (rest : List Char) : InWord c (w ++ rest) where
  blank := by rw [isBlank_of_isPrintable h.printable, beq_eq_false_iff_ne]; exact h.notSpace
  newline := h.unbroken
  colon hc := atGap_of_endsWord (h.unmarked (.inr (.inl hc))) rest

/-- A plain text does not begin with an indicator. -/
theorem ne_of_isIndicator (h : Plain c w) {x : Char} (hx : isIndicator x = true) : c ≠ x := by
  rintro rfl
  exact absurd hx (Bool.eq_false_iff.1 h.notIndicator)

/-- A text that is written plainly is read up to where a plain scalar ends. -/
theorem plainFrom_text (h : Plain c w) {indent : Int} (rest : List Char)
    (F : List Char → Place → Pending × Cursor) {p : Place} (hp : indent ≤ p.column + 1)
    (hrest : ∀ x ∈ rest.head?, x ≠ '-' ∧ x ≠ '.')
    (hstop : endsPlain false rest = true ∨ ∀ x ∈ rest.head?, isBlank x = true ∨ isBreak x = true)
    (hfin : ∀ bound text p, indent ≤ p.column →
      plainTail bound indent (.line text []) ⟨rest, p⟩ = .ok (F text p)) :
    plainFrom ((c :: w ++ rest).length + 1) false indent .empty ⟨c :: w ++ rest, p⟩ =
      .ok (F (c :: w).reverse (p.plus (c :: w).length)) := by
  have hcolumn : indent ≤ (p.plus 1).column := by
    rw [Place.column_plus]
    omega
  have hword := (h.goesOn.reads hstop hfin).1 (c :: w ++ rest).length
    (w ++ rest).length [c] (p.plus 1) hcolumn (by simp; omega) (by simp)
  have hcomment : c ≠ '#' := h.ne_of_isIndicator (by decide)
  rw [List.cons_append, plainFrom_succ (h.atDocumentMarker hrest p) (by simpa using hcomment)]
  change (plainWord ((w ++ rest).length + 1) false (.line [] []) _ >>= _) = _
  rw [plainWord_cons (h.inWord rest)]
  rw [Place.plus_plus, Nat.add_comm] at hword
  rw [List.reverse_cons]
  exact hword

/-- A text that is written plainly before the colon of a key is read. -/
theorem plainScalar_key (h : Plain c w) {indent : Int} {cs : List Char} (hcs : atGap cs = true)
    {p : Place} (hp : indent ≤ p.column + 1) :
    plainScalar false indent ⟨c :: w ++ ':' :: cs, p⟩ =
      .ok (String.ofList (c :: w), false, ⟨':' :: cs, p.plus (c :: w).length⟩) := by
  have htext := h.plainFrom_text (':' :: cs) (fun text p => (.line text [], ⟨':' :: cs, p⟩)) hp
    (fun x hx => by cases hx; decide) (.inl hcs) fun _ _ _ _ => rfl
  rw [plainScalar]
  simp only [htext]
  simp [bind, Except.bind, pure, Except.pure, Pending.result, Pending.line]

/-- At the end of the text a plain scalar ends. -/
theorem plainFrom_nil (bound : Nat) (indent : Int) (q : Pending) (p : Place) :
    plainFrom bound false indent q ⟨[], p⟩ = .ok (q, ⟨[], p⟩) := by
  cases bound with
  | zero => rfl
  | succ n =>
    simp [plainFrom, Cursor.atDocumentMarker, atMarker, plainWord_stop, pure, Except.pure, bind,
      Except.bind]

/-- A text that is written plainly at the end of a line is read, if the text ends with the line
or the next line that is not empty is not part of the scalar. -/
theorem plainScalar_line (h : Plain c w) {indent : Int} {n : Nat} {cs : List Char}
    (hcs : ∀ x ∈ cs.head?, isBlank x = false ∧ isBreak x = false)
    (hn : cs = [] ∨ (n : Int) < indent) {p : Place} (hp : indent ≤ p.column + 1) :
    plainScalar false indent ⟨c :: w ++ '\n' :: (spaces n ++ cs), p⟩ =
      .ok (String.ofList (c :: w), true, ⟨cs, (p.plus (c :: w).length).newline.plus n⟩) := by
  have htext := h.plainFrom_text ('\n' :: (spaces n ++ cs))
    (fun text p => (.lines text '\n' [], ⟨cs, p.newline.plus n⟩)) hp
    (fun x hx => by cases hx; decide) (.inr fun x hx => by cases hx; exact .inr rfl) ?_
  · rw [plainScalar]
    simp only [htext]
    simp [bind, Except.bind, pure, Except.pure, Pending.result, Pending.lines]
  · intro bound text p _
    have hskip : skipSpacing ((spaces n ++ cs).length + 1) (some indent) (.line text [])
        ⟨'\n' :: (spaces n ++ cs), p⟩ = .ok (.lines text '\n' [], ⟨cs, p.newline.plus n⟩) := by
      rw [skipSpacing_newline (by decide) (by decide)]
      exact skipSpacing_spaces rfl hcs _ _ _ _ (by simp [spaces])
    change (skipSpacing ((spaces n ++ cs).length + 1) _ _ _ >>= _) = _
    rw [hskip]
    change (if ((0 + n : Nat) : Int) < indent then _ else _) = _
    split
    · rfl
    · next hlt =>
      have hnil : cs = [] := hn.resolve_right (by omega)
      subst hnil
      exact plainFrom_nil ..

end Plain

end Provision.Yaml
