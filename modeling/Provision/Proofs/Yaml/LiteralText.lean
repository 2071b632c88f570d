import Provision.Proofs.Yaml.PlainText

/-!
# Literal blocks are read back

A text with line feeds is written as a literal block, line by line below its sign. Reading takes
the empty lines and the indentation in front of a line together (`blockBreaks_text`), then the line
(`blockLines_text`); what becomes of the breaks at the end is told by the sign
(`blockScalar_read`).
-/

namespace Provision.Yaml

/-- What follows the lines of a block: fewer spaces than before them, and a character that is not
blank, or nothing. -/
structure Follows (column : Nat) (rest : List Char) (n : Nat) (cs : List Char) : Prop where
  rest_eq : rest = spaces n ++ cs
  shallow : n < column
  head : ∀ x ∈ cs.head?, isBlank x = false ∧ isBreak x = false

/-- The spaces at the beginning are those that stand before another character. -/
theorem takeWhile_spaces {cs : List Char} (h : cs.head? ≠ some ' ') (n : Nat) :
    (spaces n ++ cs).takeWhile (· == ' ') = spaces n := by
  rw [List.takeWhile_append_of_pos (by simp [spaces])]
  cases cs with
  | nil => simp
  | cons x cs => simp_all

/-! ## How lines are written -/

/-- The first line of a block, and what follows its break. -/
theorem literalBody_line (column : Nat) {line : List Char} (hline : ∀ c ∈ line, isBreak c = false)
    {k : Char} (hk : isBreak k = true) (cs : List Char) :
    literalBody column false (line ++ k :: cs) = line ++ k :: literalBody column true cs := by
  induction line with
  | nil => simp [literalBody, hk]
  | cons c line ih =>
    rw [List.cons_append, literalBody, hline c (.head _), ih fun x hx => hline x (.tail _ hx)]
    rfl

/-- A break is written as it is, and a line begins after it. -/
theorem literalBody_break (column : Nat) (broken : Bool) {k : Char} (hk : isBreak k = true)
    (cs : List Char) : literalBody column broken (k :: cs) = k :: literalBody column true cs := by
  simp [literalBody, hk]

/-- A line of a block begins at its column. -/
theorem literalBody_begin (column : Nat) {c : Char} (hc : isBreak c = false) (cs : List Char) :
    literalBody column true (c :: cs) = spaces column ++ literalBody column false (c :: cs) := by
  simp [literalBody, hc]

/-- A body is at least as long as its text. -/
theorem length_le_literalBody (column : Nat) (cs : List Char) :
    ∀ broken, cs.length ≤ (literalBody column broken cs).length := by
  induction cs with
  | nil => exact fun _ => Nat.zero_le _
  | cons c cs ih =>
    intro broken
    rw [literalBody]
    split
    · exact Nat.succ_le_succ (ih true)
    · rw [List.length_append]
      exact Nat.le_add_left_of_le (Nat.succ_le_succ (ih false))

/-- A break at the end is written as it is. -/
theorem literalBody_append (column : Nat) {k : Char} (hk : isBreak k = true) (cs : List Char) :
    ∀ broken, literalBody column broken (cs ++ [k]) = literalBody column broken cs ++ [k] := by
  induction cs with
  | nil => simp [literalBody, hk]
  | cons c cs ih =>
    intro broken
    rw [List.cons_append, literalBody, literalBody]
    split <;> simp [ih]

/-- A text of lines: it begins with a character of a line and ends with a break. -/
structure Lines (vs : List Char) : Prop where
  printable : ∀ x ∈ vs, isPrintable x = true
  head : ∀ x ∈ vs.head?, isBreak x = false
  last : ∃ x, vs.getLast? = some x ∧ isBreak x = true

/-- A text cut before the breaks at its end. -/
structure Cut (vs us : List Char) (k : Char) (ks : List Char) : Prop where
  eq : vs = us ++ k :: ks
  last : ∃ x, us.getLast? = some x ∧ isBreak x = false
  breaks : ∀ x ∈ k :: ks, isBreak x = true

/-- The last element of two lists is that of the second, if it has one. -/
theorem getLast?_append_some {xs ys : List Char} {x : Char} (h : ys.getLast? = some x) :
    (xs ++ ys).getLast? = some x := by
  rw [List.getLast?_append, h]
  rfl

/-- What stands before a text does not change how it is cut. -/
theorem Cut.append {vs us : List Char} {k : Char} {ks : List Char} (h : Cut vs us k ks)
    (xs : List Char) : Cut (xs ++ vs) (xs ++ us) k ks where
  eq := by rw [h.eq, List.append_assoc]
  last := by
    obtain ⟨x, hx, hxb⟩ := h.last
    exact ⟨x, getLast?_append_some hx, hxb⟩
  breaks := h.breaks

/-- What is left of a text of lines where a line begins. -/
theorem Lines.of_append {xs ws : List Char} (hprint : ∀ x ∈ xs ++ ws, isPrintable x = true)
    (hlast : ∃ x, (xs ++ ws).getLast? = some x ∧ isBreak x = true) (hws : ws ≠ [])
    (hhead : ∀ x ∈ ws.head?, isBreak x = false) : Lines ws where
  printable x hx := hprint x (List.mem_append_right _ hx)
  head := hhead
  last := by
    obtain ⟨x, hx, hxb⟩ := hlast
    refine ⟨x, ?_, hxb⟩
    have hend := List.getLast?_eq_some_getLast hws
    rw [getLast?_append_some hend] at hx
    rw [hend, hx]

/-- The breaks in front of a text. -/
theorem exists_breaks (vs : List Char) : ∃ ks ws, vs = ks ++ ws ∧
    (∀ x ∈ ks, isBreak x = true) ∧ ∀ x ∈ ws.head?, isBreak x = false := by
  refine ⟨vs.takeWhile isBreak, vs.dropWhile isBreak, List.takeWhile_append_dropWhile.symm,
    fun x hx => List.all_eq_true.1 List.all_takeWhile x hx, fun x hx => ?_⟩
  have hnot := List.head?_dropWhile_not isBreak vs
  rw [hx] at hnot
  simpa using hnot

/-- A text of lines begins with a line, its break and the breaks of empty lines. -/
theorem Lines.exists_line {vs : List Char} (h : Lines vs) :
    ∃ c line k ks ws, vs = (c :: line ++ k :: ks) ++ ws ∧
      Cut (c :: line ++ k :: ks) (c :: line) k ks ∧
      (∀ x ∈ c :: line, isBreak x = false) ∧ ∀ x ∈ ws.head?, isBreak x = false := by
  obtain ⟨x, hx, hxb⟩ := h.last
  have hfind : (vs.find? isBreak).isSome = true :=
    List.find?_isSome.2 ⟨x, List.mem_of_getLast? hx, hxb⟩
  obtain ⟨k, hk⟩ := Option.isSome_iff_exists.1 hfind
  obtain ⟨hkb, line, v, rfl, hline⟩ := List.find?_eq_some_iff_append.1 hk
  have hline : ∀ x ∈ line, isBreak x = false := fun x hx => by simpa using hline x hx
  obtain ⟨ks, ws, rfl, hks, hws⟩ := exists_breaks v
  cases line with
  | nil => exact absurd (h.head k rfl) (by simp [hkb])
  | cons c line =>
    refine ⟨c, line, k, ks, ws, by simp, ⟨rfl, ?_, ?_⟩, hline, hws⟩
    · exact ⟨_, List.getLast?_eq_some_getLast (by simp), hline _ (List.getLast_mem (by simp))⟩
    · exact List.forall_mem_cons.2 ⟨hkb, hks⟩

/-! ## Empty lines and indentation -/

/-- The indentation ends before a character that is no break. -/
theorem blockBreaks_stop {us cs : List Char} {p p' : Place} {i : Nat}
    (hc : Cursor.forward (min (us.takeWhile (· == ' ')).length (i - p.column)) ⟨us, p⟩ = ⟨cs, p'⟩)
    (hhead : ∀ x ∈ cs.head?, isBreak x = false ∧ x ≠ '\t') (bound deepest : Nat)
    (breaks : List Char) : blockBreaks (bound + 1) (some i) deepest breaks ⟨us, p⟩ =
      .ok (max deepest p'.column, breaks, ⟨cs, p'⟩) := by
  simp only [blockBreaks, hc]
  cases cs with
  | nil => simp
  | cons x cs =>
    obtain ⟨hbreak, htab⟩ := hhead x rfl
    simp [hbreak, htab]

/-- An empty line is passed over. -/
theorem blockBreaks_break {k : Char} (hk : isPrintable k = true) (hb : isBreak k = true)
    (bound i deepest : Nat) (breaks cs : List Char) (p : Place) :
    blockBreaks (bound + 1) (some i) deepest breaks ⟨k :: cs, p⟩ =
      blockBreaks bound (some i) (max deepest p.column) (k :: breaks) ⟨cs, p.newline⟩ := by
  have hspace : (k == ' ') = false := by
    rcases isBreak_of_isPrintable hk hb with rfl | rfl | rfl <;> rfl
  have htab : (k == '\t') = false := by
    rcases isBreak_of_isPrintable hk hb with rfl | rfl | rfl <;> rfl
  have hforward : Cursor.forward 0 ⟨k :: cs, p⟩ = ⟨k :: cs, p⟩ := rfl
  simp [blockBreaks, hspace, htab, hb, hforward, lineBreak_cons hk hb]

section

variable {column n : Nat} {rest cs : List Char} (hrest : Follows column rest n cs)
include hrest

/-- What follows a block is not part of it. -/
theorem blockBreaks_follows {p : Place} (hp : p.column = 0) (bound deepest : Nat)
    (breaks : List Char) : blockBreaks (bound + 1) (some column) deepest breaks ⟨rest, p⟩ =
      .ok (max deepest (p.plus n).column, breaks, ⟨cs, p.plus n⟩) := by
  have hhead : cs.head? ≠ some ' ' := fun h => absurd (hrest.head _ h).1 (by decide)
  have hcursor : Cursor.forward (min ((spaces n ++ cs).takeWhile (· == ' ')).length
      (column - p.column)) ⟨spaces n ++ cs, p⟩ = ⟨cs, p.plus n⟩ := by
    have hforward := Cursor.forward_append (spaces n) cs p
    rw [length_spaces] at hforward
    rw [takeWhile_spaces hhead, length_spaces, hp, Nat.sub_zero,
      Nat.min_eq_left (Nat.le_of_lt hrest.shallow), hforward]
  rw [hrest.rest_eq]
  refine blockBreaks_stop hcursor (fun x hx => ⟨(hrest.head x hx).2, ?_⟩) bound deepest breaks
  rintro rfl
  exact absurd (hrest.head _ hx).1 (by decide)

omit hrest in
/-- The indentation of a line is passed over; spaces after it are part of the line. -/
theorem blockBreaks_begin {body : List Char}
    (hbody : ∀ x ∈ body.head?, isBreak x = false ∧ x ≠ '\t') {p : Place} (hp : p.column = 0)
    (bound deepest : Nat) (breaks : List Char) :
    blockBreaks (bound + 1) (some column) deepest breaks ⟨spaces column ++ body, p⟩ =
      .ok (max deepest (p.plus column).column, breaks, ⟨body, p.plus column⟩) := by
  have hcursor : Cursor.forward (min ((spaces column ++ body).takeWhile (· == ' ')).length
      (column - p.column)) ⟨spaces column ++ body, p⟩ = ⟨body, p.plus column⟩ := by
    have hforward := Cursor.forward_append (spaces column) body p
    rw [length_spaces] at hforward
    rw [List.takeWhile_append_of_pos (by simp [spaces]), List.length_append, length_spaces, hp,
      Nat.sub_zero, Nat.min_eq_right (Nat.le_add_right _ _), hforward]
  exact blockBreaks_stop hcursor hbody bound deepest breaks

/-- The empty lines and the indentation in front of a line are read together. -/
theorem blockBreaks_text {ks vs : List Char}
    (hprint : ∀ x ∈ ks ++ vs, isPrintable x = true) (hks : ∀ x ∈ ks, isBreak x = true)
    (hvs : ∀ x ∈ vs.head?, isBreak x = false) :
    ∀ bound deepest breaks (p : Place), p.column = 0 → ks.length < bound →
      ∃ deepest' p', p.line + ks.length ≤ p'.line ∧ p'.column = (if vs.isEmpty then n else column) ∧
        blockBreaks bound (some column) deepest breaks
          ⟨literalBody column true (ks ++ vs) ++ rest, p⟩ =
            .ok (deepest', ks.reverse ++ breaks,
              ⟨if vs.isEmpty then cs else literalBody column false vs ++ rest, p'⟩) := by
  induction ks with
  | nil =>
    intro bound deepest breaks p hp hbound
    obtain ⟨m, rfl⟩ := Nat.exists_eq_add_of_le' (Nat.one_le_of_lt hbound)
    cases vs with
    | nil =>
      refine ⟨max deepest (p.plus n).column, p.plus n, Nat.le_refl _, ?_, ?_⟩
      · rw [Place.column_plus, hp, Nat.zero_add]
        rfl
      · exact blockBreaks_follows hrest hp m deepest breaks
    | cons c vs =>
      have hbody : ∀ x ∈ (literalBody column false (c :: vs) ++ rest).head?,
          isBreak x = false ∧ x ≠ '\t' := by
        intro x hx
        obtain rfl : c = x := by simpa [literalBody, hvs c rfl] using hx
        exact ⟨hvs c rfl, ne_tab_of_isPrintable (hprint c (.head _))⟩
      rw [List.nil_append, literalBody_begin column (hvs c rfl), List.append_assoc]
      refine ⟨max deepest (p.plus column).column, p.plus column, Nat.le_refl _, ?_, ?_⟩
      · rw [Place.column_plus, hp, Nat.zero_add]
        rfl
      · exact blockBreaks_begin hbody hp m deepest breaks
  | cons k ks ih =>
    intro bound deepest breaks p hp hbound
    obtain ⟨m, rfl⟩ := Nat.exists_eq_add_of_le' (Nat.one_le_of_lt hbound)
    have hbreak := hks k (.head _)
    obtain ⟨deepest', p', hline, hcolumn, hread⟩ := ih (fun x hx => hprint x (.tail _ hx))
      (fun x hx => hks x (.tail _ hx)) m (max deepest p.column) (k :: breaks) p.newline rfl
      (Nat.lt_of_succ_lt_succ hbound)
    refine ⟨deepest', p', ?_, hcolumn, ?_⟩
    · rw [List.length_cons]
      change p.line + 1 + ks.length ≤ p'.line at hline
      omega
    · rw [List.cons_append, literalBody_break column true hbreak, List.cons_append,
        blockBreaks_break (hprint k (.head _)) hbreak, hread, List.reverse_cons, List.append_assoc]
      rfl

omit hrest in
/-- A line is read up to its break. -/
theorem blockLines_line {c k : Char} {line tail : List Char}
    (hline : ∀ x ∈ c :: line, isBreak x = false) (hk : isPrintable k = true)
    (hb : isBreak k = true) {p : Place} (hp : p.column = column) (bound : Nat) (b : Block) :
    blockLines (bound + 1) false column b ⟨c :: (line ++ k :: tail), p⟩ =
      (blockBreaks (tail.length + 1) (some column) 0 [] ⟨tail, (p.plus (line.length + 1)).newline⟩
        >>= fun r => blockLines bound false column
          ⟨(c :: line).reverse ++ (b.breaks ++ b.leadingBreak ++ b.text), [k], r.2.1, isBlank c⟩
          r.2.2) := by
  have hskip : Cursor.skipLine ⟨c :: line ++ k :: tail, p⟩ =
      ⟨k :: tail, p.plus (line.length + 1)⟩ :=
    Cursor.skipWhile_append (fun x hx => by simp [hline x hx])
      (fun x hx => by cases hx; simp [hb]) p
  have htake : (c :: line ++ k :: tail).takeWhile (fun x => !isBreak x) = c :: line := by
    rw [List.takeWhile_append_of_pos fun x hx => by simp [hline x hx]]
    simp [hb]
  rw [blockLines]
  simp only [List.cons_append] at hskip htake ⊢
  simp only [hskip, htake, lineBreak_cons hk hb, hp]
  simp

omit hrest in
/-- The lines of a block end where a line is not indented as far. -/
theorem blockLines_end {p : Place} (hp : p.column ≠ column) (bound : Nat) (b : Block) :
    blockLines bound false column b ⟨cs, p⟩ = .ok (b, ⟨cs, p⟩) := by
  cases bound with
  | zero => rfl
  | succ m => cases cs <;> simp [blockLines, hp]

/-- The first line of a block is read with the empty lines after it. -/
theorem blockLines_first {c k : Char} {line ks ws : List Char}
    (h : Lines ((c :: line ++ k :: ks) ++ ws)) (hcut : Cut (c :: line ++ k :: ks) (c :: line) k ks)
    (hline : ∀ x ∈ c :: line, isBreak x = false) (hws : ∀ x ∈ ws.head?, isBreak x = false)
    {p : Place} (hp : p.column = column) (bound : Nat) (b : Block) :
    ∃ p', p.line < p'.line ∧ p'.column = (if ws.isEmpty then n else column) ∧
      blockLines (bound + 1) false column b
        ⟨literalBody column false ((c :: line ++ k :: ks) ++ ws) ++ rest, p⟩ =
          blockLines bound false column
            ⟨(c :: line).reverse ++ (b.breaks ++ b.leadingBreak ++ b.text), [k], ks.reverse,
              isBlank c⟩
            ⟨if ws.isEmpty then cs else literalBody column false ws ++ rest, p'⟩ := by
  have hkb := hcut.breaks k (.head _)
  have hkp : isPrintable k = true := h.printable k (by simp)
  have hprint : ∀ x ∈ ks ++ ws, isPrintable x = true := fun x hx =>
    h.printable x (by simp [List.mem_append.1 hx])
  have hbody : literalBody column false ((c :: line ++ k :: ks) ++ ws) ++ rest =
      c :: (line ++ k :: (literalBody column true (ks ++ ws) ++ rest)) := by
    rw [List.append_assoc, @List.cons_append _ k, literalBody_line column hline hkb]
    simp
  have hlength := length_le_literalBody column (ks ++ ws) true
  rw [List.length_append] at hlength
  obtain ⟨deepest, p', hline', hcolumn', hread⟩ := blockBreaks_text hrest hprint
    (fun x hx => hcut.breaks x (.tail _ hx)) hws
    ((literalBody column true (ks ++ ws) ++ rest).length + 1) 0 []
    (p.plus (line.length + 1)).newline rfl (by rw [List.length_append]; omega)
  rw [List.append_nil] at hread
  refine ⟨p', ?_, hcolumn', ?_⟩
  · change p.line + 1 + ks.length ≤ p'.line at hline'
    omega
  · rw [hbody, blockLines_line hline hkp hkb hp, hread]
    rfl

/-- The lines of a block are read: what they hold, the break of the last line that is not empty,
and the breaks of the empty lines after it. -/
theorem blockLines_text (len : Nat) : ∀ vs : List Char, vs.length ≤ len → Lines vs →
    ∀ bound text lead breaks blank (p : Place), p.column = column → vs.length < bound →
      ∃ us k ks blank' p', Cut vs us k ks ∧ p.line < p'.line ∧ p'.column = n ∧
        blockLines bound false column ⟨text, lead, breaks, blank⟩
          ⟨literalBody column false vs ++ rest, p⟩ =
            .ok (⟨us.reverse ++ (breaks ++ lead ++ text), [k], ks.reverse, blank'⟩, ⟨cs, p'⟩) := by
  induction len with
  | zero =>
    rintro vs hlen ⟨-, -, x, hx, -⟩
    obtain rfl := List.eq_nil_of_length_eq_zero (Nat.le_zero.1 hlen)
    cases hx
  | succ len ih =>
    intro vs hlen h bound text lead breaks blank p hp hbound
    obtain ⟨c, line, k, ks, ws, rfl, hcut, hline, hws⟩ := h.exists_line
    obtain ⟨m, rfl⟩ := Nat.exists_eq_add_of_le' (Nat.one_le_of_lt hbound)
    obtain ⟨p', hnewline, hcolumn', hfirst⟩ :=
      blockLines_first hrest h hcut hline hws hp m ⟨text, lead, breaks, blank⟩
    simp only [List.length_append, List.length_cons] at hlen hbound
    rw [hfirst]
    by_cases hne : ws = []
    · subst hne
      have hend : p'.column ≠ column := by
        have := hrest.shallow
        change p'.column = n at hcolumn'
        omega
      exact ⟨c :: line, k, ks, isBlank c, p', by rwa [List.append_nil], hnewline, hcolumn',
        blockLines_end hend m _⟩
    · rw [List.isEmpty_eq_false_iff.2 hne] at hcolumn' ⊢
      obtain ⟨us, k', ks', blank', p'', hcut', hline'', hcolumn'', hread'⟩ := ih ws (by omega)
        (.of_append h.printable h.last hne hws) m ((c :: line).reverse ++ (breaks ++ lead ++ text))
        [k] ks.reverse (isBlank c) p' hcolumn' (by omega)
      refine ⟨_, k', ks', blank', p'', hcut'.append _, Nat.lt_trans hnewline hline'', hcolumn'', ?_⟩
      change blockLines m false column _ ⟨literalBody column false ws ++ rest, p'⟩ = _
      rw [hread']
      simp

end

/-! ## The sign of a block -/

/-- What becomes of the breaks at the end of a text. -/
def chompOf (cs : List Char) : Chomp :=
  match cs.reverse with
  | [] => .strip
  | c :: rest =>
    if !isBreak c then .strip
    else match rest with
      | [] => .keep
      | d :: _ => if isBreak d then .keep else .clip

/-- How it is signed what becomes of the breaks. -/
def chompSign : Chomp → List Char
  | .strip => ['-']
  | .clip => []
  | .keep => ['+']

/-- Whether the first line of a text does not show the indentation of the block. -/
def hidesIndentation (cs : List Char) : Bool := cs.head?.any fun c => c == ' ' || isBreak c

/-- The hints of a block say whether its indentation is hidden and what becomes of its breaks. -/
theorem literalHints_eq (cs : List Char) :
    literalHints cs = (if hidesIndentation cs then ['2'] else []) ++ chompSign (chompOf cs) := by
  unfold literalHints chompOf
  dsimp only
  congr 1
  · cases cs <;> rfl
  · cases cs.reverse with
    | nil => rfl
    | cons c rest =>
      cases hc : isBreak c with
      | false => simp [hc, chompSign]
      | true =>
        cases rest with
        | nil => simp [hc, chompSign]
        | cons d rest => cases hd : isBreak d <;> simp [hc, hd, chompSign]

/-- The hints of a block are read back. -/
theorem blockHeader_hints (cs rest : List Char) (p : Place) :
    blockHeader ⟨literalHints cs ++ '\n' :: rest, p⟩ =
      .ok (chompOf cs, if hidesIndentation cs then some 2 else none,
        ⟨'\n' :: rest, p.plus (literalHints cs).length⟩) := by
  rw [literalHints_eq]
  cases hidesIndentation cs <;> cases chompOf cs <;> rfl

/-- Without the breaks at its end, a text is what comes before them. -/
theorem Cut.dropWhile {vs us : List Char} {k : Char} {ks : List Char} (h : Cut vs us k ks) :
    vs.reverse.dropWhile isBreak = us.reverse := by
  obtain ⟨x, hx, hxb⟩ := h.last
  rw [h.eq, List.reverse_append, List.dropWhile_append_of_pos fun y hy =>
    h.breaks y (List.mem_reverse.1 hy)]
  rw [← List.head?_reverse] at hx
  cases hus : us.reverse with
  | nil => rfl
  | cons y ys =>
    rw [hus] at hx
    cases hx
    simp [hxb]

/-- The text of a block whose breaks at the end are treated as its sign says. -/
def Block.chomped (b : Block) (chomp : Chomp) : List Char :=
  let text := if chomp == .strip then b.text else b.leadingBreak ++ b.text
  if chomp == .keep then b.breaks ++ text else text

/-- A text that does not end with a break is closed by one. -/
theorem closedLine_cases (cs : List Char) :
    (∃ k, cs.getLast? = some k ∧ isBreak k = true ∧ closedLine cs = cs) ∨
    (∀ x ∈ cs.getLast?, isBreak x = false) ∧ closedLine cs = cs ++ ['\n'] := by
  unfold closedLine
  cases h : cs.getLast? with
  | none => exact .inr ⟨nofun, rfl⟩
  | some k =>
    cases hk : isBreak k with
    | true => exact .inl ⟨k, rfl, hk, by simp [hk]⟩
    | false => exact .inr ⟨fun x hx => by cases hx; exact hk, by simp [hk]⟩

/-- A break at the end is kept if more of them follow. -/
theorem chompOf_of_break {cs us ks : List Char} {k : Char} (h : Cut cs us k ks) :
    chompOf cs = if ks.isEmpty then .clip else .keep := by
  obtain ⟨x, hx, hxb⟩ := h.last
  rw [← List.head?_reverse] at hx
  obtain ⟨ys, hys⟩ := List.head?_eq_some_iff.1 hx
  have hbreaks : ∀ y ∈ ks.reverse ++ [k], isBreak y = true := fun y hy => h.breaks y (by
    simpa [or_comm] using hy)
  have hreverse : cs.reverse = (ks.reverse ++ [k]) ++ x :: ys := by
    rw [h.eq, List.reverse_append, List.reverse_cons, hys]
  rw [chompOf, hreverse]
  cases hks : ks.reverse with
  | nil =>
    obtain rfl : ks = [] := List.reverse_eq_nil_iff.1 hks
    simp [hxb, hbreaks k (by simp)]
  | cons a as =>
    rw [hks] at hbreaks
    have hne : ks.isEmpty = false := by
      cases ks with
      | nil => cases hks
      | cons => rfl
    have ha := hbreaks a (by simp)
    cases as with
    | nil => simp [ha, hne, hbreaks k (by simp)]
    | cons b bs => simp [ha, hne, hbreaks b (by simp)]

/-- A text is the lines of its block with the breaks at its end that the sign keeps. -/
theorem chomped_of_cut {cs us : List Char} {k : Char} {ks : List Char} {blank : Bool}
    (h : Cut (closedLine cs) us k ks) :
    Block.chomped ⟨us.reverse, [k], ks.reverse, blank⟩ (chompOf cs) = cs.reverse := by
  obtain ⟨x, hx, hxb, hclosed⟩ | ⟨hlast, hclosed⟩ := closedLine_cases cs
  · rw [hclosed] at h
    rw [chompOf_of_break h, h.eq, List.reverse_append, List.reverse_cons, List.append_assoc]
    cases ks <;> rfl
  · have hstrip : chompOf cs = .strip := by
      unfold chompOf
      cases hcs : cs.reverse with
      | nil => rfl
      | cons c rest =>
        have hc : isBreak c = false := hlast c (by rw [← List.head?_reverse, hcs]; rfl)
        simp [hc]
    have hus : us.reverse = cs.reverse := by
      rw [← h.dropWhile, hclosed, List.reverse_append, List.reverse_singleton,
        List.singleton_append, List.dropWhile_cons_of_pos (by decide)]
      cases hcs : cs.reverse with
      | nil => rfl
      | cons c rest =>
        have hc : isBreak c = false := hlast c (by rw [← List.head?_reverse, hcs]; rfl)
        simp [hc]
    rw [hstrip]
    exact hus

/-- A text of breaks is the empty lines of its block. -/
theorem chomped_of_breaks {cs : List Char} (hcs : cs ≠ [])
    (h : ∀ x ∈ closedLine cs, isBreak x = true) :
    Block.chomped ⟨[], [], (closedLine cs).reverse, false⟩ (chompOf cs) = cs.reverse := by
  obtain ⟨k, hk, hkb, hclosed⟩ | ⟨hlast, hclosed⟩ := closedLine_cases cs
  · rw [hclosed] at h ⊢
    have hkeep : chompOf cs = .keep := by
      have hrev : ∀ x ∈ cs.reverse, isBreak x = true := fun x hx => h x (List.mem_reverse.1 hx)
      rw [chompOf]
      cases hcs' : cs.reverse with
      | nil => exact absurd (List.reverse_eq_nil_iff.1 hcs') hcs
      | cons c rest =>
        rw [hcs'] at hrev
        cases rest with
        | nil => simp [hrev c (.head _)]
        | cons d rest => simp [hrev c (.head _), hrev d (.tail _ (.head _))]
    rw [hkeep]
    exact List.append_nil _
  · have hx := List.getLast?_eq_some_getLast hcs
    have hbreak := h (cs.getLast hcs) (by rw [hclosed]; simp)
    rw [hlast _ hx] at hbreak
    cases hbreak

/-! ## Blocks -/

/-- A text that can be written as a literal block. -/
structure AllowsBlock (cs : List Char) : Prop where
  ne_nil : cs ≠ []
  printable : ∀ x ∈ cs, isPrintable x = true

/-- The writer only writes texts as blocks that allow for it. -/
theorem AllowsBlock.of_allowsLiteral {cs : List Char} (h : allowsLiteral cs = true) :
    AllowsBlock cs := by
  simp only [allowsLiteral, needsEscapes, Bool.not_eq_true', Bool.or_eq_false_iff] at h
  obtain ⟨⟨hempty, -⟩, hprint, -⟩ := h
  exact ⟨List.isEmpty_eq_false_iff.1 hempty, fun c hc => by
    simpa using List.any_eq_false.1 hprint c hc⟩

/-- A text that allows for a block is printable, and so is its last line when closed. -/
theorem AllowsBlock.printable_closedLine {cs : List Char} (h : AllowsBlock cs) :
    ∀ x ∈ closedLine cs, isPrintable x = true := by
  obtain ⟨-, -, -, hclosed⟩ | ⟨-, hclosed⟩ := closedLine_cases cs
  · rw [hclosed]
    exact h.printable
  · rw [hclosed]
    intro x hx
    rcases List.mem_append.1 hx with hx | hx
    · exact h.printable x hx
    · rw [List.mem_singleton.1 hx]
      decide

/-- A closed line ends with a break. -/
theorem last_closedLine (cs : List Char) :
    ∃ x, (closedLine cs).getLast? = some x ∧ isBreak x = true := by
  obtain ⟨k, hk, hkb, hclosed⟩ | ⟨-, hclosed⟩ := closedLine_cases cs
  · exact ⟨k, by rw [hclosed]; exact hk, hkb⟩
  · exact ⟨'\n', by rw [hclosed]; simp, rfl⟩

/-- The end of a literal block after its sign. -/
def blockEnd (chomp : Chomp) (bound : Nat) (column : Nat) (breaks : List Char) (c : Cursor) :
    Except Problem (String × Cursor) :=
  blockLines bound false column ⟨[], [], breaks, false⟩ c >>= fun r =>
    .ok (String.ofList (r.1.chomped chomp).reverse, r.2)

/-- How far the lines of a block are indented in a collection. -/
def blockColumn (indent : Int) : Nat := if 0 ≤ indent then indent.toNat + 2 else 2

/-- The lines of a block are read after the empty lines in front of them. -/
theorem blockEnd_text {cs xs rest : List Char} {column n : Nat} (hrest : Follows column rest n xs)
    (h : AllowsBlock cs) {ks ws : List Char} (heq : closedLine cs = ks ++ ws)
    (hks : ∀ x ∈ ks, isBreak x = true) (hws : ∀ x ∈ ws.head?, isBreak x = false) {p : Place}
    (hp : p.column = if ws.isEmpty then n else column) {bound : Nat} (hbound : ws.length < bound) :
    ∃ p', p.line ≤ p'.line ∧ p'.column = n ∧
      blockEnd (chompOf cs) bound column ks.reverse
        ⟨if ws.isEmpty then xs else literalBody column false ws ++ rest, p⟩ =
          .ok (String.ofList cs, ⟨xs, p'⟩) := by
  by_cases hne : ws = []
  · subst hne
    rw [List.append_nil] at heq
    have hend : p.column ≠ column := by
      have := hrest.shallow
      change p.column = n at hp
      omega
    refine ⟨p, Nat.le_refl _, hp, ?_⟩
    change blockEnd _ _ _ _ ⟨xs, p⟩ = _
    rw [blockEnd, blockLines_end hend, ← heq]
    change Except.ok (String.ofList (Block.chomped _ _).reverse, _) = _
    rw [chomped_of_breaks h.ne_nil (heq ▸ hks), List.reverse_reverse]
  · have hempty : ws.isEmpty = false := List.isEmpty_eq_false_iff.2 hne
    rw [hempty] at hp ⊢
    have hlines : Lines ws :=
      .of_append (heq ▸ h.printable_closedLine) (heq ▸ last_closedLine cs) hne hws
    obtain ⟨us, k, ks', blank', p', hcut, hline, hcolumn, hread⟩ := blockLines_text hrest ws.length
      ws (Nat.le_refl _) hlines bound [] [] ks.reverse false p hp hbound
    refine ⟨p', Nat.le_of_lt hline, hcolumn, ?_⟩
    have hcut' := hcut.append ks
    rw [← heq] at hcut'
    change blockEnd _ _ _ _ ⟨literalBody column false ws ++ rest, p⟩ = _
    rw [blockEnd, hread]
    change Except.ok (String.ofList (Block.chomped _ _).reverse, _) = _
    have hchomped := @chomped_of_cut _ _ _ _ blank' hcut'
    rw [List.reverse_append] at hchomped
    rw [List.append_nil, List.append_nil, hchomped, List.reverse_reverse]

/-- A body ends like its text. -/
theorem getLast?_literalBody (column : Nat) {cs : List Char} (hcs : cs ≠ []) :
    ∀ broken, (literalBody column broken cs).getLast? = cs.getLast? := by
  induction cs with
  | nil => exact absurd rfl hcs
  | cons c cs ih =>
    intro broken
    have hlast (before : List Char) (b : Bool) :
        (before ++ c :: literalBody column b cs).getLast? = (c :: cs).getLast? := by
      rw [List.getLast?_append, List.getLast?_cons, List.getLast?_cons, Option.some_or]
      cases cs with
      | nil => rfl
      | cons d cs => rw [ih (by simp)]
    rw [literalBody]
    split
    · exact hlast [] true
    · exact hlast _ false

/-- A text is closed before it is written as the lines of a block. -/
theorem closedLine_literal (column : Nat) {cs : List Char} (hcs : cs ≠ []) :
    closedLine ('|' :: literalHints cs ++ '\n' :: literalBody column true cs) =
      '|' :: literalHints cs ++ '\n' :: literalBody column true (closedLine cs) := by
  have hlast : ('|' :: literalHints cs ++ '\n' :: literalBody column true cs).getLast? =
      cs.getLast? := by
    rw [List.getLast?_append, List.getLast?_cons, Option.some_or, getLast?_literalBody column hcs,
      List.getLast?_eq_some_getLast hcs]
    rfl
  rw [closedLine, hlast, closedLine]
  split
  · rfl
  · rw [literalBody_append column (by decide), List.append_assoc]
    rfl

/-- A block is read by reading what is below its sign. -/
theorem blockScalar_eq (indent : Int) (cs body : List Char) (p : Place) :
    blockScalar false indent ⟨'|' :: literalHints cs ++ '\n' :: body, p⟩ =
      (blockBreaks (body.length + 1)
        (if hidesIndentation cs then some (blockColumn indent) else none) 0 []
        ⟨body, (p.plus ((literalHints cs).length + 1)).newline⟩ >>= fun r =>
          blockEnd (chompOf cs) (r.2.2.rest.length + 1)
            (if hidesIndentation cs then blockColumn indent
              else max (max r.1 (indent + 1).toNat) 1) r.2.1 r.2.2) := by
  have hheader := blockHeader_hints cs body (p.plus 1)
  have hskip (p : Place) : Cursor.skipWhile isBlank ⟨'\n' :: body, p⟩ = ⟨'\n' :: body, p⟩ := rfl
  have hline (p : Place) : Cursor.lineBreak ⟨'\n' :: body, p⟩ = (['\n'], ⟨body, p.newline⟩) := rfl
  have hbreak : isBreak '\n' = true := rfl
  rw [blockScalar, List.cons_append, Cursor.next_cons, hheader]
  simp only [bind, Except.bind, hskip]
  cases hidesIndentation cs <;>
    simp [blockEnd, bind, Except.bind, hline, hbreak, Nat.add_comm, Block.chomped, blockColumn] <;>
    rfl

/-- The indentation that the first line of a text shows is found. -/
theorem blockBreaks_shown {c : Char} (hspace : c ≠ ' ') (htab : c ≠ '\t') (hc : isBreak c = false)
    (column : Nat) (body : List Char) {p : Place} (hp : p.column = 0) (bound : Nat) :
    blockBreaks (bound + 1) none 0 [] ⟨spaces column ++ c :: body, p⟩ =
      .ok (column, [], ⟨c :: body, p.plus column⟩) := by
  have hforward := Cursor.forward_append (spaces column) (c :: body) p
  rw [length_spaces] at hforward
  have hcount : ((spaces column ++ c :: body).takeWhile (· == ' ')).length = column := by
    rw [takeWhile_spaces (by simpa using hspace), length_spaces]
  simp only [blockBreaks, hcount, hforward]
  simp [htab, hc, hp]

/-- If the first line shows the indentation, it begins with neither a space nor a break. -/
theorem hides_false {c : Char} {cs : List Char} (h : hidesIndentation (c :: cs) = false) :
    c ≠ ' ' ∧ isBreak c = false := by
  simpa [hidesIndentation] using h

/-- A closed line begins like the text. -/
theorem closedLine_cons (c : Char) (cs : List Char) : ∃ tail, closedLine (c :: cs) = c :: tail := by
  obtain ⟨-, -, -, hclosed⟩ | ⟨-, hclosed⟩ := closedLine_cases (c :: cs)
  · exact ⟨cs, hclosed⟩
  · exact ⟨cs ++ ['\n'], hclosed⟩

/-- The empty lines in front of a text, whose indentation is told by the sign or shown. -/
theorem blockBreaks_closedLine {cs xs rest : List Char} {indent : Int} {n : Nat}
    (hindent : -1 ≤ indent) (hrest : Follows (blockColumn indent) rest n xs) (h : AllowsBlock cs)
    {p : Place} (hp : p.column = 0) :
    ∃ deepest ks ws p', closedLine cs = ks ++ ws ∧ (∀ x ∈ ks, isBreak x = true) ∧
      (∀ x ∈ ws.head?, isBreak x = false) ∧ p.line ≤ p'.line ∧
      p'.column = (if ws.isEmpty then n else blockColumn indent) ∧
      (if hidesIndentation cs then blockColumn indent
        else max (max deepest (indent + 1).toNat) 1) = blockColumn indent ∧
      blockBreaks ((literalBody (blockColumn indent) true (closedLine cs) ++ rest).length + 1)
        (if hidesIndentation cs then some (blockColumn indent) else none) 0 []
        ⟨literalBody (blockColumn indent) true (closedLine cs) ++ rest, p⟩ =
          .ok (deepest, ks.reverse,
            ⟨if ws.isEmpty then xs
              else literalBody (blockColumn indent) false ws ++ rest, p'⟩) := by
  cases hhides : hidesIndentation cs with
  | true =>
    -- the sign tells the indentation, which the first line may not show
    obtain ⟨ks, ws, hall, hks, hws⟩ := exists_breaks (closedLine cs)
    rw [hall]
    have hlength := length_le_literalBody (blockColumn indent) (ks ++ ws) true
    obtain ⟨deepest, p', hline, hcolumn, hread⟩ := blockBreaks_text hrest
      (hall ▸ h.printable_closedLine) hks hws
      ((literalBody (blockColumn indent) true (ks ++ ws) ++ rest).length + 1) 0 [] p hp (by
        simp only [List.length_append] at hlength ⊢
        omega)
    rw [List.append_nil] at hread
    exact ⟨deepest, ks, ws, p', rfl, hks, hws, Nat.le_of_add_right_le hline, hcolumn, rfl, hread⟩
  | false =>
    obtain ⟨c, cs', rfl⟩ := List.exists_cons_of_ne_nil h.ne_nil
    -- the first line shows the indentation, and no empty line is in front of it
    obtain ⟨hspace, hbreak⟩ := hides_false hhides
    obtain ⟨tail, htail⟩ := closedLine_cons c cs'
    rw [htail]
    have hread := blockBreaks_shown hspace (ne_tab_of_isPrintable (h.printable c (.head _))) hbreak
      (blockColumn indent) (literalBody (blockColumn indent) false tail ++ rest) hp
      (literalBody (blockColumn indent) true (c :: tail) ++ rest).length
    have hbody : literalBody (blockColumn indent) false (c :: tail) =
        c :: literalBody (blockColumn indent) false tail := by
      simp [literalBody, hbreak]
    rw [← List.cons_append, ← hbody, ← List.append_assoc, ← literalBody_begin _ hbreak] at hread
    refine ⟨blockColumn indent, [], c :: tail, p.plus (blockColumn indent), rfl, nofun,
      fun x hx => by cases hx; exact hbreak, Nat.le_refl _, by simp [hp], ?_, hread⟩
    have hcolumn : (indent + 1).toNat ≤ blockColumn indent ∧ 1 ≤ blockColumn indent := by
      unfold blockColumn
      split <;> omega
    rw [if_neg (by simp), Nat.max_eq_left hcolumn.1, Nat.max_eq_left hcolumn.2]

/-- A text is read from its literal block. -/
theorem blockScalar_read {cs xs rest : List Char} {indent : Int} {n : Nat}
    (hindent : -1 ≤ indent) (hrest : Follows (blockColumn indent) rest n xs) (h : AllowsBlock cs)
    (p : Place) :
    ∃ p', p.line < p'.line ∧ p'.column = n ∧
      blockScalar false indent ⟨closedLine ('|' :: literalHints cs ++
        '\n' :: literalBody (blockColumn indent) true cs) ++ rest, p⟩ =
          .ok (String.ofList cs, ⟨xs, p'⟩) := by
  have hbody : closedLine ('|' :: literalHints cs ++
      '\n' :: literalBody (blockColumn indent) true cs) ++ rest = '|' :: literalHints cs ++
        '\n' :: (literalBody (blockColumn indent) true (closedLine cs) ++ rest) := by
    rw [closedLine_literal _ h.ne_nil]
    simp
  obtain ⟨deepest, ks, ws, p', heq, hks, hws, hline, hcolumn, hindented, hread⟩ :=
    blockBreaks_closedLine hindent hrest h
      (p := (p.plus ((literalHints cs).length + 1)).newline) rfl
  have hbound : ws.length < (if ws.isEmpty then xs
      else literalBody (blockColumn indent) false ws ++ rest).length + 1 := by
    cases ws with
    | nil => exact Nat.succ_pos _
    | cons w ws =>
      have := length_le_literalBody (blockColumn indent) (w :: ws) false
      change (w :: ws).length <
        (literalBody (blockColumn indent) false (w :: ws) ++ rest).length + 1
      rw [List.length_append]
      omega
  obtain ⟨p'', hline', hcolumn', hend⟩ := blockEnd_text hrest h heq hks hws hcolumn hbound
  refine ⟨p'', Nat.lt_of_lt_of_le (Nat.lt_succ_self _) (Nat.le_trans hline hline'), hcolumn', ?_⟩
  rw [hbody, blockScalar_eq, hread]
  change blockEnd _ _ (if hidesIndentation cs then _ else _) _ _ = _
  rw [hindented]
  exact hend

end Provision.Yaml
