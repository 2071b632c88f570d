import Provision.Proofs.Glob.Slashes
import Provision.Proofs.Text.Pieces

/-!
# The slashes that a glob is written with

Reading a glob takes each of its tokens from a part of the text, and the parts follow one another.
`Consumes k` says of two texts that the second is what is left of the first after a part with at
least `k` slashes in it was read, or one with two stars next to each other, which is how trees are
written. So a glob is written with all the slashes of its tokens, unless it has a tree
(`rowWritten_le_count`). If no class of it is negated and no repetition of it runs over a slash
twice, it takes no more slashes than are written in it (`rowSlashes_le_rowWritten`).
-/

namespace Provision.Glob

open Pattern (timesAtMost)

namespace Token

mutual

/-- The slashes that a token is written with. A tree stands for any number of them. -/
def written : Token → ℕ∞
  | literal text _ => text.count '/'
  | slash => 1
  | one => 0
  | many => 0
  | tree _ => ⊤
  | oneOf _ _ => 0
  | choice branches => branchesWritten branches
  | repeated body _ _ => rowWritten body

/-- The slashes that a row is written with. -/
def rowWritten : List Token → ℕ∞
  | [] => 0
  | t :: ts => t.written + rowWritten ts

/-- The slashes that the branches of a choice are written with. -/
def branchesWritten : List (List Token) → ℕ∞
  | [] => 0
  | b :: bs => rowWritten b + branchesWritten bs

end

mutual

/-- A token takes every slash where it is written, and once: no class in it is negated, and no
repetition may run over a slash twice. -/
def TakesAsWritten : Token → Prop
  | literal _ _ => True
  | slash => True
  | one => True
  | many => True
  | tree _ => True
  | oneOf negated _ => negated = false
  | choice branches => BranchesTakeAsWritten branches
  | repeated body least most =>
    RowTakesAsWritten body ∧ (rowSlashes body = 0 ∨ timesAtMost least most ≤ 1)

/-- A row takes every slash where it is written, and once. -/
def RowTakesAsWritten : List Token → Prop
  | [] => True
  | t :: ts => t.TakesAsWritten ∧ RowTakesAsWritten ts

/-- The branches of a choice take every slash where it is written, and once. -/
def BranchesTakeAsWritten : List (List Token) → Prop
  | [] => True
  | b :: bs => RowTakesAsWritten b ∧ BranchesTakeAsWritten bs

end

mutual

/-- A token that takes as written has no more slashes than are written for it. -/
theorem slashes_le_written : ∀ t : Token, t.TakesAsWritten → t.slashes ≤ t.written
  | literal _ _, _ | slash, _ | one, _ | many, _ | tree _, _ => le_rfl
  | oneOf _ _, h => by
    rw [TakesAsWritten] at h
    simp [slashes, h]
  | choice branches, h => branchesSlashes_le_branchesWritten branches h
  | repeated body least most, ⟨hbody, h⟩ => by
    have hle := rowSlashes_le_rowWritten body hbody
    rw [slashes, written]
    rcases h with h | h
    · rw [h, mul_zero]
      exact zero_le
    · calc timesAtMost least most * rowSlashes body ≤ 1 * rowSlashes body := by gcongr
        _ = rowSlashes body := one_mul _
        _ ≤ rowWritten body := hle

/-- A row takes no more slashes than it is written with, if no class of it is negated and no
repetition runs over a slash twice. -/
theorem rowSlashes_le_rowWritten : ∀ ts : List Token,
    RowTakesAsWritten ts → rowSlashes ts ≤ rowWritten ts
  | [], _ => le_rfl
  | t :: ts, ⟨ht, hts⟩ => add_le_add (slashes_le_written t ht) (rowSlashes_le_rowWritten ts hts)

/-- Branches that take as written have no more slashes than are written for them. -/
theorem branchesSlashes_le_branchesWritten : ∀ bs : List (List Token),
    BranchesTakeAsWritten bs → branchesSlashes bs ≤ branchesWritten bs
  | [], _ => le_rfl
  | b :: bs, ⟨hb, hbs⟩ =>
    max_le ((rowSlashes_le_rowWritten b hb).trans le_self_add)
      ((branchesSlashes_le_branchesWritten bs hbs).trans le_add_self)

end

end Token

/-! ## Reading -/

/-- What is left of a text after a part was read that has at least `k` slashes, or two stars next to
each other. -/
def Consumes (k : ℕ∞) (cs rest : List Char) : Prop :=
  ∃ used, cs = used ++ rest ∧ (['*', '*'] <:+: used ∨ k ≤ (used.count '/' : ℕ))

namespace Consumes

variable {k l : ℕ∞} {cs ds rest : List Char}

/-- Reading on uses no slash at least. -/
theorem of_suffix (h : rest <:+ cs) : Consumes 0 cs rest := by
  obtain ⟨used, rfl⟩ := h
  exact ⟨used, rfl, .inr zero_le⟩

/-- Reading nothing uses no slash. -/
theorem refl (cs : List Char) : Consumes 0 cs cs := of_suffix List.suffix_rfl

/-- Reading twice uses the slashes of both readings. -/
theorem trans (h : Consumes k cs ds) (h' : Consumes l ds rest) : Consumes (k + l) cs rest := by
  obtain ⟨used, rfl, hk⟩ := h
  obtain ⟨used', rfl, hl⟩ := h'
  refine ⟨used ++ used', (List.append_assoc ..).symm, ?_⟩
  rcases hk with hk | hk
  · exact .inl (hk.trans (List.prefix_append used used').isInfix)
  · rcases hl with hl | hl
    · exact .inl (hl.trans (List.suffix_append used used').isInfix)
    · refine .inr ?_
      rw [List.count_append, Nat.cast_add]
      exact add_le_add hk hl

/-- A part without slashes before. -/
theorem after (h : Consumes k ds rest) (hs : ds <:+ cs) : Consumes k cs rest :=
  zero_add k ▸ (of_suffix hs).trans h

/-- A part without slashes behind. -/
theorem before (h : Consumes k cs ds) (hs : rest <:+ ds) : Consumes k cs rest :=
  add_zero k ▸ h.trans (of_suffix hs)

/-- Reading a slash uses one. -/
theorem slash (cs : List Char) : Consumes 1 ('/' :: cs) cs := ⟨['/'], rfl, .inr (by simp)⟩

/-- Reading two stars uses as many slashes as one likes. -/
theorem stars (k : ℕ∞) (cs : List Char) : Consumes k ('*' :: '*' :: cs) cs :=
  ⟨['*', '*'], rfl, .inl List.infix_rfl⟩

end Consumes

/-! ### Parts without slashes -/

section
variable {cs rest : List Char}

/-- Reading switches goes on in the text. -/
theorem switches_suffix {last : Option Bool} {b : Bool} (h : switches last cs = some (b, rest)) :
    rest <:+ cs := by
  fun_induction switches last cs with
  | case1 _ cs ih => exact (ih h).trans (List.suffix_cons ..)
  | case2 _ cs ih => exact (ih h).trans ((List.suffix_cons ..).trans (List.suffix_cons ..))
  | case3 last cs =>
    obtain ⟨b', -, heq⟩ := Option.map_eq_some_iff.1 h
    cases heq
    exact List.suffix_cons ..
  | case4 => cases h

/-- Reading groups of switches goes on in the text. -/
theorem switchGroups_suffix (bound : ℕ) (ignoreCase : Bool) (cs : List Char) :
    (switchGroups bound ignoreCase cs).2 <:+ cs := by
  fun_induction switchGroups bound ignoreCase cs with
  | case1 _ n rest b rest' hs ih =>
    exact ih.trans ((switches_suffix hs).trans ((List.suffix_cons ..).trans (List.suffix_cons ..)))
  | case2 => exact List.suffix_rfl
  | case3 => exact List.suffix_rfl

/-- Reading the members of a class goes on in the text. -/
theorem spansFrom_suffix {spans : List Span} (h : spansFrom cs = some (spans, rest)) :
    rest <:+ cs := by
  fun_induction spansFrom cs generalizing spans with
  | case1 cs =>
    cases h
    exact List.suffix_cons ..
  | case2 => cases h
  | case3 a b cs _ _ ih =>
    obtain ⟨⟨spans', rest'⟩, hs, heq⟩ := Option.map_eq_some_iff.1 h
    cases heq
    exact (ih hs).trans ⟨[a, '-', b], rfl⟩
  | case4 => cases h
  | case5 a cs _ _ _ ih =>
    obtain ⟨⟨spans', rest'⟩, hs, heq⟩ := Option.map_eq_some_iff.1 h
    cases heq
    exact (ih hs).trans (List.suffix_cons ..)
  | case6 => cases h

/-- Reading a class goes on in the text, and no slash is written for it. -/
theorem classFrom_suffix {t : Token} (h : classFrom cs = some (t, rest)) :
    rest <:+ cs ∧ t.written = 0 := by
  unfold classFrom at h
  split at h
  next negated ds hopen =>
  have hds : ds <:+ cs := by
    split at hopen <;> cases hopen
    · exact List.suffix_cons ..
    · exact List.suffix_rfl
  split at h
  · next hs =>
    cases h
    exact ⟨(spansFrom_suffix hs).trans hds, rfl⟩
  · cases h

/-- Reading a number goes on in the text. -/
theorem numberFrom_suffix (cs : List Char) : (numberFrom cs).2 <:+ cs := List.drop_suffix ..

/-- Reading the bounds of a repetition goes on in the text. -/
theorem boundsFrom_suffix {least : ℕ} {most : Option ℕ}
    (h : boundsFrom cs = some (least, most, rest)) : rest <:+ cs := by
  unfold boundsFrom at h
  split at h
  · cases h
    exact List.suffix_cons ..
  · next cs =>
    have hfirst := numberFrom_suffix cs
    refine List.IsSuffix.trans ?_ (List.suffix_cons ..)
    split at h
    · next hn =>
      cases h
      exact (List.suffix_cons ..).trans (hn ▸ hfirst)
    · next hn =>
      cases h
      exact (List.suffix_cons ..).trans (hn ▸ hfirst)
    · next ds hn =>
      have hsecond := numberFrom_suffix ds
      rw [hn] at hfirst
      refine List.IsSuffix.trans ?_ ((List.suffix_cons ..).trans hfirst)
      split at h
      · next hm =>
        cases h
        exact (List.suffix_cons ..).trans (hm ▸ hsecond)
      · cases h
    · cases h
  · cases h

/-- What comes after a tree comes later in the text. -/
theorem afterTree_suffix {closers : List Char} (h : afterTree closers cs = some rest) :
    rest <:+ cs := by
  unfold afterTree at h
  split at h
  · cases h
    exact List.suffix_cons ..
  · obtain ⟨-, heq⟩ := Option.ite_none_right_eq_some.1 h
    cases heq
    exact List.suffix_rfl

end

/-! ### Tokens -/

section
variable {closers cs rest : List Char} {first : Bool} {t : Token}

/-- A tree is written with two stars. -/
theorem tree_consumes {rooted : Bool} {ds : List Char}
    (h : (afterTree closers ds).map (Token.tree rooted, ·) = some (t, rest)) :
    Consumes t.written ('*' :: '*' :: ds) rest := by
  obtain ⟨rest', hs, heq⟩ := Option.map_eq_some_iff.1 h
  cases heq
  exact (Consumes.stars ⊤ ds).before (afterTree_suffix hs)

/-- A wildcard is read from as many slashes as are written for it. -/
theorem wildcardFrom_consumes (h : wildcardFrom closers first cs = some (t, rest)) :
    Consumes t.written cs rest := by
  unfold wildcardFrom at h
  simp only [Option.orElse_eq_orElse, Option.orElse_eq_or, Option.or_eq_some_iff] at h
  rcases h with h | ⟨-, h⟩
  · split at h
    · exact (tree_consumes h).after (List.suffix_cons ..)
    · obtain ⟨-, h⟩ := Option.ite_none_right_eq_some.1 h
      exact tree_consumes h
    · cases h
  · have hsingle : t.written = 0 ∧ rest <:+ cs := by
      split at h
      · cases h
        exact ⟨rfl, List.suffix_cons ..⟩
      · obtain ⟨-, heq⟩ := Option.ite_none_right_eq_some.1 h
        cases heq
        exact ⟨rfl, List.suffix_cons ..⟩
      · obtain ⟨-, heq⟩ := Option.ite_none_right_eq_some.1 h
        cases heq
        exact ⟨rfl, List.suffix_cons ..⟩
      · cases h
    rw [hsingle.1]
    exact .of_suffix hsingle.2

/-- Characters of a text are read as they stand. -/
theorem text_consumes (p : Char → Bool) (cs : List Char) :
    Consumes ((cs.takeWhile p).count '/' : ℕ) cs (cs.drop (cs.takeWhile p).length) := by
  refine ⟨cs.takeWhile p, ?_, .inr le_rfl⟩
  have hpre := List.prefix_iff_eq_take.1 (List.takeWhile_prefix (l := cs) p)
  generalize (cs.takeWhile p).length = n at hpre
  rw [hpre, List.take_append_drop]

end

mutual

/-- The tokens of a row are read one after the other. -/
theorem tokensFrom_consumes {closers : List Char} : ∀ (n : ℕ) {first ignoreCase : Bool}
    {cs : List Char} {ts : List Token} {b : Bool} {rest : List Char},
    tokensFrom n closers first ignoreCase cs = (ts, b, rest) →
      Consumes (Token.rowWritten ts) cs rest
  | 0, _, _, cs, _, _, _, rfl => .refl cs
  | n + 1, first, ignoreCase, cs, ts, b, rest, h => by
    rw [tokensFrom] at h
    split at h
    · cases h
      exact .refl cs
    · next ht =>
      cases h
      have hfirst := (tokenFrom_consumes n ht).after (switchGroups_suffix cs.length ignoreCase cs)
      exact hfirst.trans (tokensFrom_consumes n rfl)

/-- A token is read from as many slashes as are written for it. -/
theorem tokenFrom_consumes {closers : List Char} {first : Bool} : ∀ (n : ℕ) {ignoreCase : Bool}
    {cs : List Char} {t : Token} {b : Bool} {rest : List Char},
    tokenFrom n closers first (ignoreCase, cs) = some (t, b, rest) → Consumes t.written cs rest
  | 0, _, _, _, _, _, h => nomatch h
  | n + 1, ignoreCase, cs, t, b, rest, h => by
    unfold tokenFrom at h
    dsimp only at h
    split at h
    · cases h
      exact text_consumes _ cs
    split at h
    · split at h
      · cases h
      · next hrow =>
        obtain ⟨⟨least, most, rest'⟩, hbounds, heq⟩ := Option.map_eq_some_iff.1 h
        cases heq
        exact ((tokensFrom_consumes n hrow).before (boundsFrom_suffix hbounds)).after
          (List.suffix_cons ..)
    · obtain ⟨⟨branches, b', rest'⟩, hbranches, heq⟩ := Option.map_eq_some_iff.1 h
      cases heq
      exact (branchesFrom_consumes n hbranches).after (List.suffix_cons ..)
    · obtain ⟨⟨t', rest'⟩, hclass, heq⟩ := Option.map_eq_some_iff.1 h
      cases heq
      obtain ⟨hs, hw⟩ := classFrom_suffix hclass
      rw [hw]
      exact .of_suffix (hs.trans (List.suffix_cons ..))
    · split at h
      · next hw =>
        cases h
        exact wildcardFrom_consumes hw
      · cases h
        exact .slash _
      · cases h

/-- Branches are read from as many slashes as are written for them. -/
theorem branchesFrom_consumes : ∀ (n : ℕ) {ignoreCase : Bool} {cs : List Char}
    {branches : List (List Token)} {b : Bool} {rest : List Char},
    branchesFrom n ignoreCase cs = some (branches, b, rest) →
      Consumes (Token.branchesWritten branches) cs rest
  | 0, _, _, _, _, _, h => nomatch h
  | n + 1, ignoreCase, cs, branches, b, rest, h => by
    rw [branchesFrom] at h
    split at h
    · cases h
    · next hrow =>
      obtain ⟨⟨branches', b', rest'⟩, hbranches, heq⟩ := Option.map_eq_some_iff.1 h
      cases heq
      exact (tokensFrom_consumes n hrow).trans
        ((branchesFrom_consumes n hbranches).after (List.suffix_cons ..))
    · next hrow =>
      cases h
      have hbranch := (tokensFrom_consumes n hrow).before (List.suffix_cons ..)
      rwa [Token.branchesWritten, Token.branchesWritten, add_zero]
    · cases h

end

/-- A glob is written with all the slashes of its tokens, unless two stars in it stand next to each
other. -/
theorem rowWritten_le_count {cs : List Char} {ts : List Token} (h : tokens? cs = some ts) :
    ['*', '*'] <:+: cs ∨ Token.rowWritten ts ≤ (cs.count '/' : ℕ) := by
  unfold tokens? at h
  split at h
  · obtain ⟨-, heq⟩ := Option.ite_none_right_eq_some.1 h
    cases heq
    exact .inr zero_le
  · next hrow =>
    cases h
    obtain ⟨used, rfl, hused⟩ := tokensFrom_consumes _ hrow
    rwa [List.append_nil]
  · cases h

end Provision.Glob
