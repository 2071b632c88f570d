import Provision.Glob.Meaning
import Provision.Proofs.Pattern.Occurrences
import Provision.Proofs.Unicode.Ranges

/-!
# How many slashes a glob takes

`Token.rowSlashes` bounds the slashes in the paths that a row of tokens matches. A token for
characters of a name takes none, but a negated class may take one: it is the negation of a set
without the slash. A tree may take any number, a choice as many as the branch that takes most, and a
repetition those of its body each time. The bound holds of the pattern that the row becomes
(`ast_takes`), and so of every path that a glob matches (`count_le_rowSlashes`).
-/

namespace Provision.Glob

open Pattern (Ast Expr Flags Compile ClassItem ClassSet Climbs timesAtMost)
open Pattern (seqExpr choiceExpr itemRanges checked)
open Unicode (Ranges)
open Unicode.Ranges (Ordered IsScalar IsCaseless)

namespace Token

mutual

/-- A bound for the slashes that a token takes. -/
noncomputable def slashes : Token → ℕ∞
  | literal text _ => text.count '/'
  | slash => 1
  | one => 0
  | many => 0
  | tree _ => ⊤
  | oneOf negated _ => if negated then 1 else 0
  | choice branches => branchesSlashes branches
  | repeated body least most => timesAtMost least most * rowSlashes body

/-- A bound for the slashes that a row takes. -/
noncomputable def rowSlashes : List Token → ℕ∞
  | [] => 0
  | t :: ts => t.slashes + rowSlashes ts

/-- A bound for the slashes that the branches of a choice take. -/
noncomputable def branchesSlashes : List (List Token) → ℕ∞
  | [] => 0
  | b :: bs => max (rowSlashes b) (branchesSlashes bs)

end

end Token

/-! ## Slashes in sets of characters -/

/-- A slash is a character. -/
theorem slash_isScalar : IsScalar '/'.toNat := .inl (by decide)

/-- No other character is a slash in another case. -/
theorem slash_isCaseless : IsCaseless '/'.toNat := by
  show _ < _
  decide

section
variable {f : Flags} {r : Ranges}

/-- Other cases bring no slash into a set. -/
theorem fold_spec (hf : f.unicode = true) (hr : Ordered r.pairs) :
    Ordered (f.fold r).pairs ∧ ((f.fold r).mem '/' = true ↔ r.mem '/' = true) := by
  unfold Flags.fold
  split
  · exact ⟨hr, Iff.rfl⟩
  · obtain ⟨hord, hin, hout⟩ := Ranges.foldClosure_spec hr
    exact ⟨hord, hout _ slash_isCaseless, fun h => hin _ h slash_isScalar⟩

/-- A slash is in the complement of a set just if it is not in the set. -/
theorem complement_spec (hf : f.unicode = true) (hr : Ordered r.pairs) :
    Ordered (f.complement r).pairs ∧ ((f.complement r).mem '/' = true ↔ ¬ r.mem '/' = true) := by
  unfold Flags.complement
  rw [if_pos hf]
  refine ⟨Ranges.ordered_complement hr, (Ranges.contains_complement hr).trans ?_⟩
  exact and_iff_left slash_isScalar

/-- No character has a greater number than the last one. -/
theorem toNat_le_max (c : Char) : c.toNat ≤ 0x10FFFF := by
  have h : c.toNat.isValidChar := c.valid
  unfold Nat.isValidChar at h
  omega

/-- The characters from one to another. -/
theorem span_spec {a b : Char} (hab : a ≤ b) :
    Ordered (Ranges.ofPairs [(a.toNat, b.toNat)]).pairs ∧
      ((Ranges.ofPairs [(a.toNat, b.toNat)]).mem '/' = true ↔ a ≤ '/' ∧ '/' ≤ b) := by
  have hfill : Ranges.Filled [(a.toNat, b.toNat)] := fun p hp =>
    List.mem_singleton.1 hp ▸ ⟨hab, toNat_le_max a⟩
  refine ⟨Ranges.ordered_ofPairs hfill, (Ranges.contains_ofPairs hfill).trans ?_⟩
  simp only [Ranges.covers_cons, Ranges.covers_nil, or_false]
  exact and_iff_left slash_isScalar

/-- A slash is in the set of one character just if it is that character. -/
theorem single_spec (c : Char) :
    Ordered (Ranges.single c).pairs ∧ ((Ranges.single c).mem '/' = true ↔ c = '/') := by
  refine ⟨⟨fun p hp => List.mem_singleton.1 hp ▸ ⟨Nat.le_refl _, toNat_le_max c⟩,
    List.pairwise_singleton ..⟩, Ranges.contains_iff.trans ?_⟩
  simp only [Ranges.single, Ranges.covers_cons, Ranges.covers_nil, or_false]
  rw [← Char.toNat_inj]
  omega

end

/-! ## What compiling gives -/

/-- Whatever a pattern compiles to takes at most `k` slashes. Flags about case may change on the
way, but characters stay characters. -/
def Takes (k : ℕ∞) (x : Compile Expr) : Prop :=
  ∀ f e f', f.unicode = true → x f = .ok (e, f') → f'.unicode = true ∧ e.mostOf '/' ≤ k

section
variable {α β : Type} {k l : ℕ∞} {a : Ast} {as bs : List Ast}

/-- Compiling in two steps goes well if both steps do, with the flags that the first one leaves. -/
theorem bind_eq_ok {x : Compile α} {g : α → Compile β} {f f' : Flags} {b : β}
    (h : (x >>= g) f = .ok (b, f')) : ∃ a f₁, x f = .ok (a, f₁) ∧ g a f₁ = .ok (b, f') := by
  cases hx : x f with
  | error e => simp [bind, StateT.bind, Except.bind, hx] at h
  | ok r => exact ⟨r.1, r.2, rfl, by simpa [bind, StateT.bind, Except.bind, hx] using h⟩

/-- After a step that goes well, the next one goes on with its flags. -/
theorem bind_ok {x : Compile α} {g : α → Compile β} {f f₁ : Flags} {a : α}
    (h : x f = .ok (a, f₁)) : (x >>= g) f = g a f₁ := by
  show (x f).bind _ = _
  rw [h]
  rfl

/-- What takes at most so many slashes takes at most more. -/
theorem Takes.mono {x : Compile Expr} (h : Takes k x) (hk : k ≤ l) : Takes l x := by
  intro f e f' hf hx
  obtain ⟨hf', he⟩ := h f e f' hf hx
  exact ⟨hf', he.trans hk⟩

/-- An expression takes as many slashes as it can match. -/
theorem takes_pure {e : Expr} (h : e.mostOf '/' ≤ k) : Takes k (pure e) := by
  rintro f _ _ hf ⟨⟩
  exact ⟨hf, h⟩

/-- An expression that is made of one that was compiled before. -/
theorem Takes.bind {x : Compile Expr} {g : Expr → Compile Expr} (hx : Takes k x)
    (hg : ∀ e, e.mostOf '/' ≤ k → Takes l (g e)) : Takes l (x >>= g) := by
  intro f e f' hf h
  obtain ⟨e₁, f₁, h₁, h⟩ := bind_eq_ok h
  obtain ⟨hf₁, he₁⟩ := hx _ _ _ hf h₁
  exact hg e₁ he₁ _ _ _ hf₁ h

/-- A sequence of nothing takes no slash. -/
theorem takes_seqExpr_nil : Takes 0 (seqExpr []) := takes_pure le_rfl

/-- A sequence takes the slashes of its first part and those of the rest. -/
theorem takes_seqExpr_cons (ha : Takes k a.expr) (has : Takes l (seqExpr as)) :
    Takes (k + l) (seqExpr (a :: as)) := by
  cases as with
  | nil => exact ha.mono le_self_add
  | cons b bs =>
    refine ha.bind fun e he => ?_
    exact has.bind fun rest hrest => takes_pure (add_le_add he hrest)

/-- A choice of nothing takes no slash. -/
theorem takes_choiceExpr_nil : Takes 0 (choiceExpr []) := takes_pure le_rfl

/-- A choice takes the slashes of the branch that takes most. -/
theorem takes_choiceExpr_cons (ha : Takes k a.expr) (has : Takes l (choiceExpr as)) :
    Takes (max k l) (choiceExpr (a :: as)) := by
  cases as with
  | nil => exact ha.mono (le_max_left ..)
  | cons b bs =>
    refine ha.bind fun e he => ?_
    exact has.bind fun rest hrest => takes_pure (max_le_max he hrest)

/-- Parts are compiled as a sequence. -/
theorem ofParts_expr : (Ast.ofParts as).expr = seqExpr as := by
  match as with
  | [] | [_] | _ :: _ :: _ => rfl

/-- Branches are compiled as a choice. -/
theorem ofBranches_expr : (Ast.ofBranches as).expr = choiceExpr as := by
  match as with
  | [] | [_] | _ :: _ :: _ => rfl

/-- A group takes the slashes of what is in it. -/
theorem takes_group (ha : Takes k a.expr) : Takes k (Ast.group [] a).expr := by
  intro f e f' hf h
  obtain ⟨e₁, f₁, h₁, h⟩ := bind_eq_ok (x := a.expr) (g := fun e => do set f; return e) h
  cases h
  exact ⟨hf, (ha _ _ _ hf h₁).2⟩

/-- A repetition takes the slashes of its body as many times as it is repeated. -/
theorem takes_repeated (ha : Takes k a.expr) (least : ℕ) (most : Option ℕ) :
    Takes (timesAtMost least most * k) (Ast.repeated a least most).expr :=
  ha.bind fun _ he => takes_pure (mul_le_mul_right he _)

/-! A piece of a pattern becomes the expression of its parts. -/

/-- A repetition compiles if its body does. -/
theorem repeated_ok {f f' : Flags} {e : Expr} (h : a.expr f = .ok (e, f')) (least : ℕ)
    (most : Option ℕ) : (Ast.repeated a least most).expr f = .ok (.repeated e least most, f') :=
  (bind_ok h).trans rfl

/-- A group compiles if what is in it does, and the flags stay as they were. -/
theorem group_ok {f f' : Flags} {e : Expr} (h : a.expr f = .ok (e, f')) :
    (Ast.group [] a).expr f = .ok (e, f) :=
  (bind_ok (x := a.expr) (g := fun e => do set f; return e) h).trans rfl

/-- Two patterns in a row compile if both do. -/
theorem concat_ok {b : Ast} {f f₁ f' : Flags} {e e' : Expr} (ha : a.expr f = .ok (e, f₁))
    (hb : b.expr f₁ = .ok (e', f')) : (Ast.concat [a, b]).expr f = .ok (.seq e e', f') :=
  (bind_ok ha).trans ((bind_ok hb).trans rfl)

/-- A change of case takes nothing. -/
theorem takes_ignoreCase (b : Bool) : Takes 0 (Ast.flags [(.ignoreCase, b)]).expr := by
  rintro f e f' hf ⟨⟩
  exact ⟨hf, le_rfl⟩

/-! ## The patterns of tokens -/

/-- A set of characters takes a slash if one is in it. -/
theorem takes_chars {x : Compile Expr} {r : Flags → Ranges}
    (hx : ∀ f, f.unicode = true → x f = .ok (.chars (r f), f))
    (hr : ∀ f, f.unicode = true → (r f).mem '/' = true → 1 ≤ k) : Takes k x := by
  intro f e f' hf h
  rw [hx f hf] at h
  cases h
  refine ⟨hf, ?_⟩
  rw [Expr.mostOf]
  split
  · next hmem => exact hr f hf hmem
  · exact zero_le

/-- A character compiles to itself in any case. -/
theorem character_ok {f : Flags} (hf : f.unicode = true) (c : Char) :
    (character c).expr f = .ok (.chars (f.fold (Ranges.single c)), f) := by
  simp [character, Ast.expr, Pattern.Literal.compile, hf, bind, StateT.bind, get, getThe,
    MonadStateOf.get, StateT.get, Except.bind, pure, Except.pure, liftM, monadLift,
    MonadLift.monadLift, StateT.lift]

/-- A character takes a slash if it is one. -/
theorem takes_character (c : Char) : Takes (if c = '/' then 1 else 0) (character c).expr := by
  refine takes_chars (fun f hf => character_ok hf c) fun f hf h => ?_
  obtain ⟨hord, hsingle⟩ := single_spec c
  rw [if_pos (hsingle.1 ((fold_spec hf hord).2.1 h))]

/-- A class compiles to its set in any case, or to what is not in that. -/
theorem bracket_ok {negated : Bool} {set : ClassSet} {f : Flags} (hf : f.unicode = true)
    {r : Ranges} (hr : set.ranges f = .ok r) : (Ast.bracket negated set).expr f =
      .ok (.chars (if negated then f.complement (f.fold r) else f.fold r), f) := by
  simp only [Ast.expr, hr, checked, hf, bind, StateT.bind, get, getThe, MonadStateOf.get,
    StateT.get, Except.bind, pure, Except.pure, liftM, monadLift, MonadLift.monadLift, StateT.lift]
  rfl

/-- A class takes no slash if its set has none. -/
theorem takes_bracket {negated : Bool} {set : ClassSet} (r : Flags → Ranges)
    (hr : ∀ f : Flags, f.unicode = true → set.ranges f = .ok (r f))
    (hk : ∀ f : Flags, f.unicode = true →
      (if negated then f.complement (f.fold (r f)) else f.fold (r f)).mem '/' = true → 1 ≤ k) :
    Takes k (Ast.bracket negated set).expr :=
  takes_chars (fun f hf => bracket_ok hf (hr f hf)) hk

/-- What is left of all characters without those of a set that has the slash. -/
theorem complement_fold_spec {f : Flags} (hf : f.unicode = true) {r : Ranges}
    (hr : Ordered r.pairs) (hmem : r.mem '/' = true) :
    Ordered (f.complement (f.fold r)).pairs ∧ ¬ (f.complement (f.fold r)).mem '/' = true := by
  obtain ⟨hord, hfold⟩ := fold_spec hf hr
  obtain ⟨hord', hcompl⟩ := complement_spec hf hord
  exact ⟨hord', fun h => hcompl.1 h (hfold.2 hmem)⟩

/-- Uniting a single set leaves it as it is, as far as slashes go. -/
theorem unions_singleton_spec {r : Ranges} (hr : Ordered r.pairs) :
    Ordered (Ranges.unions [r]).pairs ∧
      ((Ranges.unions [r]).mem '/' = true ↔ r.mem '/' = true) := by
  have hall : ∀ s ∈ [r], Ordered s.pairs := List.forall_mem_singleton.2 hr
  refine ⟨Ranges.ordered_unions hall, (Ranges.contains_unions hall).trans ?_⟩
  simp only [List.mem_singleton, exists_eq_left]
  exact and_iff_left slash_isScalar

/-- The set of a slash. -/
def onlySlash : Ranges := Ranges.unions [Ranges.ofPairs [('/'.toNat, '/'.toNat)]]

/-- A slash is in its set. -/
theorem onlySlash_spec : Ordered onlySlash.pairs ∧ onlySlash.mem '/' = true := by
  obtain ⟨hord, hmem⟩ := span_spec (Char.le_refl '/')
  obtain ⟨hord', hmem'⟩ := unions_singleton_spec hord
  exact ⟨hord', hmem'.2 (hmem.2 ⟨Char.le_refl _, Char.le_refl _⟩)⟩

/-- What is not a slash compiles to the complement of the slash. -/
theorem notSlash_ok {f : Flags} (hf : f.unicode = true) :
    notSlash.expr f = .ok (.chars (f.complement (f.fold onlySlash)), f) := by
  refine bracket_ok hf ?_
  simp [ClassSet.ranges, itemRanges, ClassItem.ranges, Pattern.literalNumber, hf, onlySlash, bind,
    Except.bind, pure, Except.pure]

/-- What is not a slash takes none. -/
theorem takes_notSlash : Takes 0 notSlash.expr :=
  takes_chars (fun _ hf => notSlash_ok hf) fun _ hf h =>
    absurd h (complement_fold_spec hf onlySlash_spec.1 onlySlash_spec.2).2

/-- The sets of a class's members. -/
def spanRanges (spans : List Span) : List Ranges :=
  spans.map fun s => Ranges.ofPairs [(s.first.toNat, s.last.toNat)]

/-- The members of a class compile to their spans. -/
theorem itemRanges_spans {f : Flags} (hf : f.unicode = true) (spans : List Span) :
    itemRanges f (spans.map Span.item) = .ok (spanRanges spans) := by
  induction spans with
  | nil => rfl
  | cons s spans ih =>
    have hitem : s.item.ranges f = .ok (Ranges.ofPairs [(s.first.toNat, s.last.toNat)]) := by
      unfold Span.item
      split
      · next h => simp [ClassItem.ranges, Pattern.literalNumber, hf, h, bind, Except.bind, pure,
          Except.pure]
      · simp [ClassItem.ranges, Pattern.literalNumber, hf, bind, Except.bind, pure, Except.pure]
    rw [List.map_cons, itemRanges, hitem, ih]
    rfl

/-- The sets of spans are in order. -/
theorem ordered_spanRanges {spans : List Span} (h : ∀ s ∈ spans, s.first ≤ s.last) :
    ∀ r ∈ spanRanges spans, Ordered r.pairs := by
  intro r hr
  obtain ⟨s, hs, rfl⟩ := List.mem_map.1 hr
  exact (span_spec (h s hs)).1

/-- The set of a class before it is negated: what the members have in common with all characters
but the slash. -/
def memberRanges (spans : List Span) (f : Flags) : Ranges :=
  (f.fold (Ranges.unions (spanRanges spans))).inter
    (f.fold (Ranges.unions [f.complement (f.fold onlySlash)]))

/-- No member of a class is a slash. -/
theorem not_mem_memberRanges {f : Flags} (hf : f.unicode = true) {spans : List Span}
    (h : ∀ s ∈ spans, s.first ≤ s.last) : ¬ (f.fold (memberRanges spans f)).mem '/' = true := by
  obtain ⟨hleft, -⟩ := fold_spec hf (Ranges.ordered_unions (ordered_spanRanges h))
  obtain ⟨hrest, hnot⟩ := complement_fold_spec hf onlySlash_spec.1 onlySlash_spec.2
  obtain ⟨hunion, hunionMem⟩ := unions_singleton_spec hrest
  obtain ⟨hright, hrightMem⟩ := fold_spec hf hunion
  intro hmem
  have hinter := (fold_spec hf (Ranges.ordered_inter hleft hright)).2.1 hmem
  exact hnot (hunionMem.1 (hrightMem.1 ((Ranges.contains_inter hleft hright).1 hinter).1.2))

/-- A class takes no slash, unless it is negated. -/
theorem takes_classAst (negated : Bool) (spans : List Span) :
    Takes (if negated then 1 else 0) (classAst negated spans).expr := by
  by_cases hall : spans.all (fun s => s.first ≤ s.last) = true
  · rw [classAst, if_pos hall]
    refine takes_bracket (memberRanges spans) (fun f hf => ?_) fun f hf h => ?_
    · simp [ClassSet.ranges, itemRanges_spans hf, itemRanges, ClassItem.ranges, hf, onlySlash,
        Pattern.literalNumber, checked, Pattern.SetOp.apply, memberRanges, bind, Except.bind, pure,
        Except.pure]
    · cases negated with
      | true => exact le_rfl
      | false =>
        refine absurd h (not_mem_memberRanges hf fun s hs => ?_)
        exact of_decide_eq_true (List.all_eq_true.1 hall s hs)
  · rw [classAst, if_neg hall]
    refine takes_bracket (fun _ => Ranges.unions [Ranges.ofPairs [(0, 0x10FFFF)]])
      (fun f hf => ?_) fun f hf h => ?_
    · simp [ClassSet.ranges, itemRanges, ClassItem.ranges, Pattern.literalNumber, hf,
        bind, Except.bind, pure, Except.pure]
    · obtain ⟨hord, hmem⟩ := span_spec (a := '\x00') (b := Char.ofNat 0x10FFFF) (by decide)
      obtain ⟨hord', hmem'⟩ := unions_singleton_spec hord
      exact absurd h (complement_fold_spec hf hord' (hmem'.2 (hmem.2 (by decide)))).2

/-- Any character may be a slash, so any number is allowed for. -/
theorem takes_dot : Takes ⊤ Ast.dot.expr := by
  intro f e f' hf h
  obtain ⟨e₁, f₁, h₁, h⟩ := bind_eq_ok h
  cases h₁
  simp [Pattern.dot, hf, liftM, monadLift, MonadLift.monadLift, StateT.lift, bind, Except.bind,
    pure, Except.pure] at h
  obtain ⟨-, rfl⟩ := h
  exact ⟨hf, le_top⟩

/-- A slash takes one slash. -/
theorem takes_slashAst : Takes 1 slashAst.expr := takes_character '/'

/-- Any text takes any number of slashes. -/
theorem takes_anyText : Takes ⊤ anyText.expr := (takes_repeated takes_dot 0 none).mono le_top

/-- For a slash that may be missing any number is allowed for. -/
theorem takes_optionalSlash : Takes ⊤ optionalSlash.expr :=
  (takes_repeated takes_slashAst 0 (some 1)).mono le_top

/-- Any pieces one after the other. -/
theorem takes_concat (h : ∀ a ∈ as, Takes ⊤ a.expr) : Takes ⊤ (Ast.concat as).expr := by
  show Takes ⊤ (seqExpr as)
  induction as with
  | nil => exact takes_seqExpr_nil.mono zero_le
  | cons a as ih =>
    obtain ⟨ha, has⟩ := List.forall_mem_cons.1 h
    exact (takes_seqExpr_cons ha (ih has)).mono le_top

/-- One of two pieces. -/
theorem takes_either {b : Ast} (ha : Takes ⊤ a.expr) (hb : Takes ⊤ b.expr) :
    Takes ⊤ (Ast.group [] (.alternation [a, b])).expr :=
  takes_group ((takes_choiceExpr_cons ha (takes_choiceExpr_cons hb takes_choiceExpr_nil)).mono
    le_top)

/-- A tree in the middle takes any number of slashes. -/
theorem takes_innerTree : Takes ⊤ innerTree.expr := by
  have hslash : Takes ⊤ slashAst.expr := takes_slashAst.mono le_top
  exact takes_either hslash (takes_concat (by simp [hslash, takes_anyText]))

/-- A tree takes any number of slashes, wherever it is. -/
theorem takes_treeAst (outer : Option Position) (rooted : Bool) (place : Position) :
    Takes ⊤ (treeAst outer rooted place).expr := by
  have hslash : Takes ⊤ slashAst.expr := takes_slashAst.mono le_top
  cases place with
  | first =>
    rw [treeAst]
    split
    · exact takes_innerTree
    · split
      · exact takes_concat (by simp [hslash, takes_anyText, takes_optionalSlash])
      · exact takes_either takes_optionalSlash (takes_concat (by simp [hslash, takes_anyText]))
  | middle => exact takes_innerTree
  | last =>
    rw [treeAst]
    split
    · exact takes_innerTree
    · exact takes_either takes_optionalSlash (takes_concat (by simp [hslash, takes_anyText]))
  | only => exact takes_anyText

/-! ## Rows of tokens -/

/-- Some pieces take at most `k` slashes, whatever pieces follow them. -/
def TakeTogether (k : ℕ∞) (as : List Ast) : Prop :=
  ∀ l bs, Takes l (seqExpr bs) → Takes (k + l) (seqExpr (as ++ bs))

namespace TakeTogether

/-- No pieces take no slash. -/
theorem nil : TakeTogether 0 [] := fun l _ h => (zero_add l).symm ▸ h

/-- A piece and others take their slashes together. -/
theorem cons (ha : Takes k a.expr) (has : TakeTogether l as) : TakeTogether (k + l) (a :: as) :=
  fun m bs h => add_assoc k l m ▸ takes_seqExpr_cons ha (has m bs h)

/-- One piece takes its own slashes. -/
theorem singleton (ha : Takes k a.expr) : TakeTogether k [a] := add_zero k ▸ cons ha nil

/-- Pieces and others take their slashes together. -/
theorem append (ha : TakeTogether k as) (hb : TakeTogether l bs) :
    TakeTogether (k + l) (as ++ bs) := by
  intro m cs h
  rw [List.append_assoc, add_assoc]
  exact ha _ _ (hb m cs h)

/-- The sequence of some pieces takes what they take together. -/
theorem takes (h : TakeTogether k as) : Takes k (Ast.ofParts as).expr := by
  have hall := h 0 [] takes_seqExpr_nil
  rwa [List.append_nil, add_zero, ← ofParts_expr] at hall

/-- A literal text takes the slashes in it. -/
theorem literal (text : List Char) : TakeTogether (text.count '/' : ℕ) (text.map character) := by
  induction text with
  | nil => exact nil
  | cons c cs ih =>
    have hc : ((c :: cs).count '/' : ℕ∞) = (if c = '/' then 1 else 0) + (cs.count '/' : ℕ) := by
      rw [List.count_cons, Nat.cast_add, add_comm]
      by_cases h : c = '/' <;> simp [h]
    rw [hc]
    exact cons (takes_character c) ih

end TakeTogether

mutual

/-- The pattern of a token takes at most the slashes of the token. -/
theorem tokenAst_takes (outer : Option Position) (place : Position) :
    ∀ t : Token, TakeTogether t.slashes (tokenAst outer place t)
  | .literal text ignoreCase => by
    have h := TakeTogether.cons (takes_ignoreCase ignoreCase) (.literal text)
    rwa [zero_add] at h
  | .slash => .singleton takes_slashAst
  | .one => .singleton takes_notSlash
  | .many => .singleton ((takes_repeated takes_notSlash 0 none).mono (mul_zero _).le)
  | .tree rooted => .singleton (takes_treeAst outer rooted place)
  | .oneOf negated spans => .singleton (takes_classAst negated spans)
  | .choice branches => by
    refine .singleton (takes_group ?_)
    rw [ofBranches_expr]
    exact branchAsts_takes _ branches
  | .repeated body least most =>
    .singleton (takes_group (takes_repeated (takes_group (rowAst_takes _ _ body).takes) _ _))

/-- The patterns of a row take at most the slashes of the row. -/
theorem rowAst_takes (outer : Option Position) (before : Bool) :
    ∀ ts : List Token, TakeTogether (Token.rowSlashes ts) (rowAst outer before ts)
  | [] => .nil
  | t :: ts => (tokenAst_takes _ _ t).append (rowAst_takes _ _ ts)

/-- The patterns of branches take at most the slashes of the branch that has most. -/
theorem branchAsts_takes (outer : Option Position) : ∀ bs : List (List Token),
    Takes (Token.branchesSlashes bs) (choiceExpr (branchAsts outer bs))
  | [] => takes_choiceExpr_nil
  | b :: bs =>
    takes_choiceExpr_cons (takes_group (rowAst_takes _ _ b).takes) (branchAsts_takes _ bs)

end

/-- The pattern of a row takes no more slashes than the row. -/
theorem ast_takes (ts : List Token) : Takes (Token.rowSlashes ts) (ast ts).expr :=
  (rowAst_takes none false ts).takes

end

/-! ## Globs -/

/-- A pattern compiles if all its parts do and it is not too large. -/
theorem compile_eq_ok {a : Ast} {e : Expr} : a.compile = .ok e ↔
    (∃ f, a.expr Flags.initial = .ok (e, f)) ∧ e.cost ≤ Pattern.maxCost := by
  unfold Ast.compile
  cases h : a.expr Flags.initial with
  | error problem => simp [StateT.run, h, bind, Except.bind]
  | ok r =>
    obtain ⟨e', f⟩ := r
    by_cases hc : Pattern.maxCost < e'.cost
    · simp [StateT.run, h, hc, bind, Except.bind, throw, throwThe, MonadExceptOf.throw]
      grind
    · simp [StateT.run, h, hc, bind, Except.bind, pure, Except.pure]
      grind

/-- A text is a glob if its tokens keep the rules and their pattern can be compiled. -/
theorem ofText_eq_ok {text : String} {g : Glob} : ofText text = .ok g ↔
    tokens? text.toList = some g.tokens ∧ isSound g.tokens = true ∧
      (ast g.tokens).depth ≤ Pattern.maxDepth ∧ (ast g.tokens).compile = .ok g.expr := by
  obtain ⟨ts, e⟩ := g
  unfold ofText
  cases tokens? text.toList with
  | none => simp [throw, throwThe, MonadExceptOf.throw]
  | some us =>
    simp only [Option.some.injEq]
    by_cases hs : isSound us = true
    · by_cases hd : Pattern.maxDepth < (ast us).depth
      · simp [hs, hd, throw, throwThe, MonadExceptOf.throw, bind, Except.bind]
        grind
      · cases hc : (ast us).compile with
        | error | ok => simp [hs, hd, bind, Except.bind, pure, Except.pure]; grind
    · simp [hs, throw, throwThe, MonadExceptOf.throw, bind, Except.bind]
      grind

/-- A path that a glob matches has no more slashes than the tokens of the glob take. -/
theorem count_le_rowSlashes {text path : String} {g : Glob} (hg : ofText text = .ok g)
    (hm : g.isMatch path = true) :
    (path.toList.count '/' : ℕ∞) ≤ Token.rowSlashes g.tokens := by
  obtain ⟨-, -, -, hc⟩ := ofText_eq_ok.1 hg
  obtain ⟨⟨f, hf⟩, -⟩ := compile_eq_ok.1 hc
  exact (Expr.count_le_mostOf hm).trans (ast_takes g.tokens _ _ _ rfl hf).2

end Provision.Glob
