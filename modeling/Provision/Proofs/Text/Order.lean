import Provision.Proofs.Text.Utf8

/-!
# The order of texts is that of their bytes

Texts are compared by their code points, which gives the same order as comparing the bytes that
write them (`bytesOf_lt_iff`): of two characters the smaller one has the smaller bytes, whatever
comes after them (`lex_encoded`), because a longer form begins with a larger byte.

What is sorted by a text is in the order of these texts, and what has the same text stays in the
order that it had (`pairwise_mergeSort_key`). Where no two texts are the same, nothing is left of
the order from before: the members decide (`eq_of_pairwise`).
-/

namespace Provision.Text

/-- Bytes are compared at the first place where they differ. -/
theorem lex_ofNat_cons {m n : Nat} {bs bs' : List UInt8} (hn : n < 256) (hmn : m ≤ n)
    (h : m = n → List.Lex (· < ·) bs bs') :
    List.Lex (· < ·) (UInt8.ofNat m :: bs) (UInt8.ofNat n :: bs') := by
  rcases Nat.lt_or_eq_of_le hmn with hlt | rfl
  · exact .rel (ofNat_lt m n (by omega))
  · exact .cons (h rfl)

/-- The smaller one of two characters has the smaller bytes, whatever comes after them. -/
theorem lex_encoded {c d : Char} (h : c < d) (bs bs' : List UInt8) :
    List.Lex (· < ·) (String.utf8EncodeChar c ++ bs) (String.utf8EncodeChar d ++ bs') := by
  have hlt : c.val.toNat < d.val.toNat := UInt32.lt_iff_toNat_lt.1 (Char.lt_def.1 h)
  have hd : d.val.toNat < 0xD800 ∨ 0xDFFF < d.val.toNat ∧ d.val.toNat < 0x110000 := d.valid
  simp only [String.utf8EncodeChar]
  generalize c.val.toNat = v at hlt
  generalize d.val.toNat = w at hlt hd
  by_cases hw : w ≤ 0x7F
  · rw [if_pos (by omega : v ≤ 0x7F), if_pos hw]
    exact lex_ofNat_cons (by omega) (by omega) fun h => by omega
  rw [if_neg hw]
  by_cases hw : w ≤ 0x7FF
  · rw [if_pos hw]
    split
    · exact lex_ofNat_cons (by omega) (by omega) fun h => by omega
    · rw [if_pos (by omega)]
      refine lex_ofNat_cons (by omega) (by omega) fun h1 => ?_
      exact lex_ofNat_cons (by omega) (by omega) fun h2 => by omega
  rw [if_neg hw]
  by_cases hw : w ≤ 0xFFFF
  · rw [if_pos hw]
    split
    · exact lex_ofNat_cons (by omega) (by omega) fun h => by omega
    split
    · exact lex_ofNat_cons (by omega) (by omega) fun h => by omega
    · rw [if_pos (by omega)]
      refine lex_ofNat_cons (by omega) (by omega) fun h1 => ?_
      refine lex_ofNat_cons (by omega) (by omega) fun h2 => ?_
      exact lex_ofNat_cons (by omega) (by omega) fun h3 => by omega
  rw [if_neg hw]
  split
  · exact lex_ofNat_cons (by omega) (by omega) fun h => by omega
  split
  · exact lex_ofNat_cons (by omega) (by omega) fun h => by omega
  split
  · exact lex_ofNat_cons (by omega) (by omega) fun h => by omega
  · refine lex_ofNat_cons (by omega) (by omega) fun h1 => ?_
    refine lex_ofNat_cons (by omega) (by omega) fun h2 => ?_
    refine lex_ofNat_cons (by omega) (by omega) fun h3 => ?_
    exact lex_ofNat_cons (by omega) (by omega) fun h4 => by omega

/-- Of two texts the smaller one has the smaller bytes. -/
theorem lex_flatMap_encoded {cs ds : List Char} (h : List.Lex (· < ·) cs ds) :
    List.Lex (· < ·) (cs.flatMap String.utf8EncodeChar) (ds.flatMap String.utf8EncodeChar) := by
  induction h with
  | @nil d ds =>
    obtain ⟨b, bs, hb, -⟩ := lead_encoded d []
    rw [List.flatMap_nil, List.flatMap_cons, hb]
    exact .nil
  | rel hcd =>
    rw [List.flatMap_cons, List.flatMap_cons]
    exact lex_encoded hcd _ _
  | cons _ ih =>
    rw [List.flatMap_cons, List.flatMap_cons]
    exact List.lex_lt.2 (List.append_left_lt (List.lex_lt.1 ih))

/-- Texts are in the order of their bytes. -/
theorem bytesOf_lt_iff {s t : String} :
    List.Lex (· < ·) (bytesOf s) (bytesOf t) ↔ s < t := by
  have hlex {a b : String} (h : a < b) : List.Lex (· < ·) (bytesOf a) (bytesOf b) := by
    rw [bytesOf_eq, bytesOf_eq]
    exact lex_flatMap_encoded (List.lex_lt.2 (String.lt_iff.1 h))
  refine ⟨fun h => String.not_le.1 fun hle => ?_, hlex⟩
  have hts : t < s ∨ t = s := by
    by_cases hst : s ≤ t
    · exact .inr (String.le_antisymm hle hst)
    · exact .inl (String.not_le.1 hst)
  rcases hts with hts | rfl
  · exact List.lex_asymm UInt8.lt_asymm h (hlex hts)
  · exact List.lex_asymm UInt8.lt_asymm h h

/-! ## Sorting by a text -/

section
variable {α : Type} (key : α → String)

/-- The order by keys is transitive. -/
theorem decide_le_trans (a b c : α) (hab : decide (key a ≤ key b) = true)
    (hbc : decide (key b ≤ key c) = true) : decide (key a ≤ key c) = true :=
  decide_eq_true (String.le_trans (of_decide_eq_true hab) (of_decide_eq_true hbc))

/-- The order by keys is total. -/
theorem decide_le_total (a b : α) : (decide (key a ≤ key b) || decide (key b ≤ key a)) = true := by
  simpa using String.le_total (key a) (key b)

/-- What is sorted by keys rises by these. -/
theorem pairwise_le_mergeSort (l : List α) :
    (l.mergeSort fun a b => key a ≤ key b).Pairwise fun a b => key a ≤ key b :=
  (List.pairwise_mergeSort (decide_le_trans key) (decide_le_total key) l).imp of_decide_eq_true

/-- Sorting keeps the order of what has the same text. -/
theorem filter_mergeSort (l : List α) (text : String) :
    (l.mergeSort fun a b => key a ≤ key b).filter (fun a => key a = text) =
      l.filter fun a => key a = text := by
  have hsame : (l.filter fun a => key a = text).Pairwise
      fun a b => decide (key a ≤ key b) = true := by
    refine List.pairwise_iff_forall_sublist.2 fun {a b} hab => decide_eq_true ?_
    have hkey {c : α} (hc : c ∈ [a, b]) : key c = text :=
      of_decide_eq_true (List.mem_filter.1 (hab.subset hc)).2
    have hkeys : key a = key b := (hkey (.head _)).trans (hkey (.tail _ (.head _))).symm
    exact hkeys ▸ String.le_refl (key a)
  have hsub := (List.sublist_mergeSort (decide_le_trans key) (decide_le_total key) hsame
    List.filter_sublist).filter fun a => key a = text
  simp only [List.filter_filter, Bool.and_self] at hsub
  exact (hsub.eq_of_length ((List.mergeSort_perm l _).filter _).length_eq.symm).symm

/-- What is sorted by a text is in the order of these texts, and otherwise in the order it had. -/
theorem pairwise_mergeSort_key {R : α → α → Prop} {l : List α} (h : l.Pairwise R) :
    (l.mergeSort fun a b => key a ≤ key b).Pairwise fun a b =>
      key a < key b ∨ key a = key b ∧ R a b := by
  refine List.pairwise_iff_forall_sublist.2 fun {a b} hab => ?_
  have hle : key a ≤ key b :=
    List.pairwise_iff_forall_sublist.1 (pairwise_le_mergeSort key l) hab
  by_cases hba : key b ≤ key a
  · have hkey : key a = key b := String.le_antisymm hle hba
    have hsub := hab.filter fun c => key c = key b
    rw [filter_mergeSort] at hsub
    simp only [List.filter_cons, hkey, decide_true, if_true, List.filter_nil] at hsub
    exact .inr ⟨hkey, List.pairwise_iff_forall_sublist.1 h (hsub.trans List.filter_sublist)⟩
  · exact .inl (String.not_le.1 hba)

end

/-- Lists in a strict order are equal if they have the same members. -/
theorem eq_of_pairwise {α : Type} {R : α → α → Prop} (hR : ∀ a b, R a b → ¬ R b a)
    {as bs : List α} (ha : as.Pairwise R) (hb : bs.Pairwise R) (h : ∀ a, a ∈ as ↔ a ∈ bs) :
    as = bs := by
  have hne {a b : α} (hab : R a b) : a ≠ b := by
    rintro rfl
    exact hR a a hab hab
  have hperm : as.Perm bs := (List.perm_ext_iff_of_nodup (ha.imp hne) (hb.imp hne)).2 h
  exact hperm.eq_of_pairwise (fun a b _ _ hab hba => absurd hba (hR a b hab)) ha hb

end Provision.Text
