import Provision.Unicode.CaseFolding

/-!
# What is in a set of characters

A set of characters is a list of ranges in rising order with gaps between them (`Ranges.Ordered`).
All operations on sets give such lists back, and they do what they say: a character is in a union
if it is in one of the sets (`contains_union`), in a complement if it is not in the set
(`contains_complement`), and in an intersection if it is in both (`contains_inter`). Surrogates are
left out throughout. Sets that ignore case gain no slash (`foldClosure_spec`), because no character
that folds comes before the letters.
-/

namespace Provision.Unicode.Ranges

/-- A code point that is a character's and no surrogate. -/
def IsScalar (n : Nat) : Prop := n < 0xD800 ∨ 0xDFFF < n ∧ n ≤ 0x10FFFF

/-- One of some ranges holds a code point. -/
def Covers (ps : List (Nat × Nat)) (n : Nat) : Prop := ∃ p ∈ ps, p.1 ≤ n ∧ n ≤ p.2

/-- No ranges hold nothing. -/
@[simp] theorem covers_nil {n : Nat} : ¬ Covers [] n := by
  rintro ⟨p, hp, -⟩
  cases hp

/-- Ranges hold what the first or another one holds. -/
@[simp] theorem covers_cons {p : Nat × Nat} {ps : List (Nat × Nat)} {n : Nat} :
    Covers (p :: ps) n ↔ (p.1 ≤ n ∧ n ≤ p.2) ∨ Covers ps n := by
  simp only [Covers, List.mem_cons, or_and_right, exists_or, exists_eq_left]

/-- Ranges hold what some or the others hold. -/
@[simp] theorem covers_append {ps qs : List (Nat × Nat)} {n : Nat} :
    Covers (ps ++ qs) n ↔ Covers ps n ∨ Covers qs n := by
  simp only [Covers, List.mem_append, or_and_right, exists_or]

/-- The order of ranges makes no difference to what they hold. -/
theorem Covers.of_perm {ps qs : List (Nat × Nat)} (h : ps.Perm qs) {n : Nat} :
    Covers ps n ↔ Covers qs n := by
  simp only [Covers, h.mem_iff]

/-- A set has the code points that its ranges hold. -/
theorem contains_iff {r : Ranges} {n : Nat} : r.contains n = true ↔ Covers r.pairs n := by
  simp [contains, Covers]

/-- Ranges each of which holds a code point. -/
def Filled (ps : List (Nat × Nat)) : Prop := ∀ p ∈ ps, p.1 ≤ p.2 ∧ p.1 ≤ 0x10FFFF

/-- Ranges of code points that are not empty and come in rising order, with no overlap. -/
structure Ordered (ps : List (Nat × Nat)) : Prop where
  bounded : ∀ p ∈ ps, p.1 ≤ p.2 ∧ p.2 ≤ 0x10FFFF
  rising : ps.Pairwise fun p q => p.2 < q.1

/-- No ranges are in order. -/
theorem Ordered.nil : Ordered [] := ⟨fun _ hp => (List.not_mem_nil hp).elim, .nil⟩

/-- Without the first, ranges stay in order. -/
theorem Ordered.tail {p : Nat × Nat} {ps : List (Nat × Nat)} (h : Ordered (p :: ps)) :
    Ordered ps :=
  ⟨fun q hq => h.bounded q (List.mem_cons_of_mem p hq), h.rising.of_cons⟩

/-- Ranges in order are not empty. -/
theorem Ordered.filled {ps : List (Nat × Nat)} (h : Ordered ps) : Filled ps := by
  intro p hp
  obtain ⟨hle, hmax⟩ := h.bounded p hp
  exact ⟨hle, Nat.le_trans hle hmax⟩

/-- Ranges are not empty if some and the others are not. -/
theorem Filled.append {ps qs : List (Nat × Nat)} (h : Filled ps) (h' : Filled qs) :
    Filled (ps ++ qs) :=
  fun p hp => (List.mem_append.1 hp).elim (h p) (h' p)

/-! ## Sets from ranges -/

/-- A range that is put in front of later ones keeps them in order, and nothing is lost. -/
theorem attach_spec {lo hi : Nat} {ps : List (Nat × Nat)} (hle : lo ≤ hi) (hmax : hi ≤ 0x10FFFF)
    (h : Ordered ps) (hlo : ∀ p ∈ ps, lo ≤ p.1) :
    Ordered (attach lo hi ps) ∧ (∀ p ∈ attach lo hi ps, lo ≤ p.1) ∧
      ∀ n, Covers (attach lo hi ps) n ↔ (lo ≤ n ∧ n ≤ hi) ∨ Covers ps n := by
  induction ps generalizing hi with
  | nil =>
    refine ⟨⟨?_, List.pairwise_singleton ..⟩, ?_, fun n => by simp [attach]⟩
    · intro p hp
      obtain rfl := List.mem_singleton.1 hp
      exact ⟨hle, hmax⟩
    · intro p hp
      obtain rfl := List.mem_singleton.1 hp
      exact Nat.le_refl lo
  | cons q rest ih =>
    obtain ⟨a, b⟩ := q
    have ha : lo ≤ a := hlo (a, b) List.mem_cons_self
    obtain ⟨hab, hb⟩ : a ≤ b ∧ b ≤ 0x10FFFF := h.bounded (a, b) List.mem_cons_self
    have hrest : ∀ p ∈ rest, lo ≤ p.1 := fun p hp => hlo p (List.mem_cons_of_mem _ hp)
    unfold attach
    split
    · next htouch =>
      obtain ⟨hord, hfirst, hcov⟩ :=
        @ih (max hi b) (by omega) (by omega) h.tail hrest
      refine ⟨hord, hfirst, fun n => ?_⟩
      rw [hcov, covers_cons, ← or_assoc]
      refine or_congr_left ?_
      show lo ≤ n ∧ n ≤ max hi b ↔ (lo ≤ n ∧ n ≤ hi) ∨ (a ≤ n ∧ n ≤ b)
      omega
    · next hgap =>
      refine ⟨⟨?_, List.pairwise_cons.2 ⟨?_, h.rising⟩⟩, ?_, fun n => covers_cons⟩
      · exact List.forall_mem_cons.2 ⟨⟨hle, hmax⟩, h.bounded⟩
      · refine List.forall_mem_cons.2 ⟨by show hi < a; omega, fun p hp => ?_⟩
        have := List.rel_of_pairwise_cons h.rising hp
        show hi < p.1
        omega
      · exact List.forall_mem_cons.2 ⟨Nat.le_refl lo, hlo⟩

/-- Ranges that begin in rising order are joined to ordered ones, and nothing is lost. -/
theorem join_spec {ps : List (Nat × Nat)} (hb : ∀ p ∈ ps, p.1 ≤ p.2 ∧ p.2 ≤ 0x10FFFF)
    (hs : ps.Pairwise fun p q => p.1 ≤ q.1) :
    Ordered (join ps) ∧ (∀ lo, (∀ p ∈ ps, lo ≤ p.1) → ∀ p ∈ join ps, lo ≤ p.1) ∧
      ∀ n, Covers (join ps) n ↔ Covers ps n := by
  induction ps with
  | nil => exact ⟨.nil, fun _ h => h, fun _ => Iff.rfl⟩
  | cons q rest ih =>
    obtain ⟨lo, hi⟩ := q
    obtain ⟨⟨hle, hmax⟩, hrest⟩ := List.forall_mem_cons.1 hb
    obtain ⟨hord, hfirst, hcov⟩ := ih hrest hs.of_cons
    obtain ⟨hord', hfirst', hcov'⟩ :=
      attach_spec hle hmax hord (hfirst lo fun p hp => List.rel_of_pairwise_cons hs hp)
    refine ⟨hord', fun least hl p hp => ?_, fun n => ?_⟩
    · exact Nat.le_trans (hl (lo, hi) List.mem_cons_self) (hfirst' p hp)
    · rw [join, hcov', hcov, covers_cons]

/-- A range without the surrogates holds its other code points. -/
theorem covers_cutSurrogates {p : Nat × Nat} {n : Nat} :
    Covers (cutSurrogates p) n ↔ (p.1 ≤ n ∧ n ≤ p.2) ∧ IsScalar n := by
  unfold cutSurrogates IsScalar
  split <;> split <;> simp <;> omega

/-- The parts of ranges that are left without surrogates. -/
theorem covers_flatMap_cutSurrogates {ps : List (Nat × Nat)} {n : Nat} :
    Covers (ps.flatMap cutSurrogates) n ↔ Covers ps n ∧ IsScalar n := by
  induction ps with
  | nil => simp
  | cons p ps ih => rw [List.flatMap_cons, covers_append, covers_cutSurrogates, ih, covers_cons,
      or_and_right]

/-- What is left of a range without the surrogates is not empty and within bounds. -/
theorem bounded_of_mem_cutSurrogates {p q : Nat × Nat} (hp : p.1 ≤ p.2 ∧ p.1 ≤ 0x10FFFF)
    (hq : q ∈ cutSurrogates p) : q.1 ≤ q.2 ∧ q.2 ≤ 0x10FFFF := by
  unfold cutSurrogates at hq
  rcases List.mem_append.1 hq with hq | hq <;> split at hq <;>
    simp only [List.mem_singleton, List.not_mem_nil] at hq <;> subst hq <;> simp <;> omega

/-- The set of some ranges is ordered and holds their characters. -/
theorem ofPairs_spec {ps : List (Nat × Nat)} (h : Filled ps) :
    Ordered (ofPairs ps).pairs ∧
      ∀ n, (ofPairs ps).contains n = true ↔ Covers ps n ∧ IsScalar n := by
  have hperm := List.mergeSort_perm (ps.flatMap cutSurrogates) fun p q => p.1 ≤ q.1
  have hsorted : ((ps.flatMap cutSurrogates).mergeSort fun p q => p.1 ≤ q.1).Pairwise
      fun p q => p.1 ≤ q.1 := by
    refine (List.pairwise_mergeSort ?_ ?_ _).imp fun hpq => by simpa using hpq
    · intro p q r hpq hqr
      simp only [decide_eq_true_eq] at hpq hqr ⊢
      omega
    · intro p q
      simp only [Bool.or_eq_true, decide_eq_true_eq]
      omega
  obtain ⟨hord, -, hcov⟩ := join_spec (fun q hq => by
    obtain ⟨p, hp, hpq⟩ := List.mem_flatMap.1 (hperm.mem_iff.1 hq)
    exact bounded_of_mem_cutSurrogates (h p hp) hpq) hsorted
  refine ⟨hord, fun n => ?_⟩
  rw [contains_iff]
  exact (hcov n).trans ((Covers.of_perm hperm).trans covers_flatMap_cutSurrogates)

/-- A set that is made of ranges has them in order. -/
theorem ordered_ofPairs {ps : List (Nat × Nat)} (h : Filled ps) : Ordered (ofPairs ps).pairs :=
  (ofPairs_spec h).1

/-- A set that is made of ranges has the characters that they hold. -/
theorem contains_ofPairs {ps : List (Nat × Nat)} (h : Filled ps) {n : Nat} :
    (ofPairs ps).contains n = true ↔ Covers ps n ∧ IsScalar n :=
  (ofPairs_spec h).2 n

/-- Ranges that begin in rising order need no sorting. -/
theorem ofPairs_of_rising {ps : List (Nat × Nat)}
    (h : (ps.flatMap cutSurrogates).Pairwise fun p q => decide (p.1 ≤ q.1) = true) :
    ofPairs ps = ⟨join (ps.flatMap cutSurrogates)⟩ := by
  rw [ofPairs, List.mergeSort_of_pairwise h]

/-! ## Operations -/

/-- A union has its ranges in order. -/
theorem ordered_union {r s : Ranges} (hr : Ordered r.pairs) (hs : Ordered s.pairs) :
    Ordered (r.union s).pairs := ordered_ofPairs (hr.filled.append hs.filled)

/-- A union has the characters of one set and of the other. -/
theorem contains_union {r s : Ranges} (hr : Ordered r.pairs) (hs : Ordered s.pairs) {n : Nat} :
    (r.union s).contains n = true ↔ (r.contains n = true ∨ s.contains n = true) ∧ IsScalar n := by
  rw [union, contains_ofPairs (hr.filled.append hs.filled), covers_append, contains_iff,
    contains_iff]

/-- The ranges of some sets are not empty. -/
theorem filled_flatMap {rs : List Ranges} (h : ∀ r ∈ rs, Ordered r.pairs) :
    Filled (rs.flatMap Ranges.pairs) := by
  intro p hp
  obtain ⟨r, hr, hp⟩ := List.mem_flatMap.1 hp
  exact (h r hr).filled p hp

/-- A union of some sets has its ranges in order. -/
theorem ordered_unions {rs : List Ranges} (h : ∀ r ∈ rs, Ordered r.pairs) :
    Ordered (unions rs).pairs := ordered_ofPairs (filled_flatMap h)

/-- A union of some sets has the characters of each of them. -/
theorem contains_unions {rs : List Ranges} (h : ∀ r ∈ rs, Ordered r.pairs) {n : Nat} :
    (unions rs).contains n = true ↔ (∃ r ∈ rs, r.contains n = true) ∧ IsScalar n := by
  rw [unions, contains_ofPairs (filled_flatMap h)]
  refine and_congr_left fun _ => ⟨?_, ?_⟩
  · rintro ⟨p, hp, hn⟩
    obtain ⟨r, hr, hp⟩ := List.mem_flatMap.1 hp
    exact ⟨r, hr, contains_iff.2 ⟨p, hp, hn⟩⟩
  · rintro ⟨r, hr, hn⟩
    obtain ⟨p, hp, hn⟩ := contains_iff.1 hn
    exact ⟨p, List.mem_flatMap.2 ⟨r, hr, hp⟩, hn⟩

/-- The gaps between ordered ranges are what no range holds. -/
theorem gaps_spec {start : Nat} {ps : List (Nat × Nat)} (h : Ordered ps)
    (hs : ∀ p ∈ ps, start ≤ p.1) :
    Filled (gaps start ps) ∧
      ∀ n, Covers (gaps start ps) n ↔ start ≤ n ∧ n ≤ 0x10FFFF ∧ ¬ Covers ps n := by
  induction ps generalizing start with
  | nil =>
    unfold gaps
    split
    · next hle => exact ⟨fun _ hp => List.mem_singleton.1 hp ▸ ⟨hle, hle⟩, fun n => by simp⟩
    · next hgt =>
      refine ⟨fun _ hp => (List.not_mem_nil hp).elim, fun n => ?_⟩
      simp only [covers_nil, not_false_eq_true, and_true, false_iff]
      omega
  | cons q rest ih =>
    obtain ⟨lo, hi⟩ := q
    have hstart : start ≤ lo := hs (lo, hi) List.mem_cons_self
    obtain ⟨hle, hmax⟩ : lo ≤ hi ∧ hi ≤ 0x10FFFF := h.bounded (lo, hi) List.mem_cons_self
    have hlater : ∀ p ∈ rest, hi + 1 ≤ p.1 := fun p hp => List.rel_of_pairwise_cons h.rising hp
    obtain ⟨hfill, hcov⟩ := ih h.tail hlater
    have hafter : ∀ n, Covers rest n → hi < n := by
      rintro n ⟨p, hp, hpn, -⟩
      have := hlater p hp
      omega
    unfold gaps
    split
    · refine ⟨List.forall_mem_cons.2 ⟨⟨by omega, by omega⟩, hfill⟩, fun n => ?_⟩
      rw [covers_cons, covers_cons, hcov]
      grind
    · refine ⟨hfill, fun n => ?_⟩
      rw [covers_cons, hcov]
      grind

/-- A complement has its ranges in order. -/
theorem ordered_complement {r : Ranges} (h : Ordered r.pairs) : Ordered r.complement.pairs :=
  ordered_ofPairs (gaps_spec h fun _ _ => Nat.zero_le _).1

/-- A complement has the characters that the set has not. -/
theorem contains_complement {r : Ranges} (h : Ordered r.pairs) {n : Nat} :
    r.complement.contains n = true ↔ ¬ r.contains n = true ∧ IsScalar n := by
  obtain ⟨hfill, hcov⟩ := gaps_spec h fun _ _ => Nat.zero_le _
  rw [complement, contains_ofPairs hfill, hcov, contains_iff]
  grind [IsScalar]

/-- An intersection has its ranges in order. -/
theorem ordered_inter {r s : Ranges} (hr : Ordered r.pairs) (hs : Ordered s.pairs) :
    Ordered (r.inter s).pairs :=
  ordered_complement (ordered_union (ordered_complement hr) (ordered_complement hs))

/-- An intersection has the characters that both sets have. -/
theorem contains_inter {r s : Ranges} (hr : Ordered r.pairs) (hs : Ordered s.pairs) {n : Nat} :
    (r.inter s).contains n = true ↔ (r.contains n = true ∧ s.contains n = true) ∧ IsScalar n := by
  have hr' := ordered_complement hr
  have hs' := ordered_complement hs
  rw [inter, contains_complement (ordered_union hr' hs'), contains_union hr' hs',
    contains_complement hr, contains_complement hs]
  grind

/-! ## Case -/

/-- Characters before the letters, none of which has another case. -/
def IsCaseless (n : Nat) : Prop := n < 0x41

/-- A run of characters that fold begins with the letters, and so do the characters it folds to. -/
theorem foldRuns_bounded : ∀ run ∈ foldRuns, 0x41 ≤ run.1 ∧ run.1 ≤ run.2.1 ∧ run.2.1 ≤ 0x10FFFF ∧
    0x41 ≤ run.1 + run.2.2.2 ∧ run.2.1 + run.2.2.2 ≤ 0x10FFFF := by
  decide +kernel

/-- Every character that folds is a letter, and so is the one that it folds to. -/
theorem foldPairs_bounded {p : Nat × Nat} (hp : p ∈ foldPairs) :
    0x41 ≤ p.1 ∧ p.1 ≤ 0x10FFFF ∧ 0x41 ≤ p.2 ∧ p.2 ≤ 0x10FFFF := by
  obtain ⟨⟨first, last, step, shift⟩, hrun, hp⟩ := List.mem_flatMap.1 hp
  obtain ⟨i, hi, rfl⟩ := List.mem_map.1 hp
  obtain ⟨h1, h2, h3, h4, h5⟩ := foldRuns_bounded _ hrun
  have hstep : i * step ≤ last - first :=
    Nat.le_trans (Nat.mul_le_mul_right step (Nat.le_of_lt_succ (List.mem_range.1 hi)))
      (Nat.div_mul_le_self _ _)
  simp only at h1 h2 h3 h4 h5 ⊢
  omega

/-- Ranges of one code point each are not empty. -/
theorem filled_fold {ps : List (Nat × Nat)} {f : Nat × Nat → Nat}
    (h : ∀ p ∈ ps, f p ≤ 0x10FFFF) : Filled (ps.map fun p => (f p, f p)) := by
  intro q hq
  obtain ⟨p, hp, rfl⟩ := List.mem_map.1 hq
  exact ⟨Nat.le_refl _, h p hp⟩

/-- No caseless character is the other case of one. -/
theorem not_covers_fold {ps : List (Nat × Nat)} {f : Nat × Nat → Nat} {n : Nat}
    (hn : IsCaseless n) (h : ∀ p ∈ ps, 0x41 ≤ f p) : ¬ Covers (ps.map fun p => (f p, f p)) n := by
  rintro ⟨q, hq, hle, hge⟩
  obtain ⟨p, hp, rfl⟩ := List.mem_map.1 hq
  have := h p hp
  simp only [IsCaseless] at hn hle hge
  omega

/-- A set together with every other case of its members is ordered, and its characters before the
letters are those of the set. -/
theorem foldClosure_spec {r : Ranges} (h : Ordered r.pairs) :
    Ordered (foldClosure r).pairs ∧ (∀ n, r.contains n = true → IsScalar n →
      (foldClosure r).contains n = true) ∧
      ∀ n, IsCaseless n → (foldClosure r).contains n = true → r.contains n = true := by
  unfold foldClosure
  extract_lets pairs folded sources
  have hfill : Filled
      ((pairs.filter fun p => r.contains p.1 || r.contains p.2).map fun p => (p.2, p.2)) :=
    filled_fold fun p hp => (foldPairs_bounded ((List.mem_filter.1 hp).1)).2.2.2
  have hfill' : Filled (sources.map fun p => (p.1, p.1)) :=
    filled_fold fun p hp => (foldPairs_bounded ((List.mem_filter.1 hp).1)).2.1
  have hfolded : Ordered folded.pairs := ordered_ofPairs hfill
  have hsources := ordered_ofPairs hfill'
  have hothers := ordered_union hfolded hsources
  refine ⟨ordered_union h hothers, fun n hn hs => ?_, fun n hn hc => ?_⟩
  · exact (contains_union h hothers).2 ⟨.inl hn, hs⟩
  · rw [contains_union h hothers, contains_union hfolded hsources, contains_ofPairs hfill,
      contains_ofPairs hfill'] at hc
    rcases hc.1 with hr | ⟨⟨hf, -⟩ | ⟨hs, -⟩, -⟩
    · exact hr
    · exact absurd hf (not_covers_fold hn fun p hp =>
        (foldPairs_bounded ((List.mem_filter.1 hp).1)).2.2.1)
    · exact absurd hs (not_covers_fold hn fun p hp =>
        (foldPairs_bounded ((List.mem_filter.1 hp).1)).1)

end Provision.Unicode.Ranges
