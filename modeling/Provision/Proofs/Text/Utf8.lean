import Provision.Text.Utf8

/-!
# Texts are read from their bytes

The bytes that write a text are read as that text again (`ofBytes?_bytesOf`). A character is found
at the front of its own bytes (`lead_encoded`), whatever comes after them, and the reader skips the
rest of those bytes; so a text is read character by character. Bytes that write no text are not read
as one (`ofBytes?_eq_some`).
-/

namespace Provision.Text

/-! ## The bytes of a text -/

/-- Bytes are listed from an index on. -/
theorem toList_loop (bs : ByteArray) (i : Nat) (r : List UInt8) :
    ByteArray.toList.loop bs i r = r.reverse ++ bs.data.toList.drop i := by
  fun_induction ByteArray.toList.loop bs i r with
  | case1 i r hi ih =>
    have hlen : i < bs.data.toList.length := hi
    have hget : bs.get! i = bs.data.toList[i] := by simp [ByteArray.get!, getElem!_pos, hi]
    rw [ih, hget, List.drop_eq_getElem_cons hlen]
    simp
  | case2 i r hi =>
    rw [List.drop_eq_nil_of_le (Nat.le_of_not_lt hi), List.append_nil]

/-- The bytes of a text are those of its characters, one after the other. -/
theorem bytesOf_eq (s : String) : bytesOf s = s.toList.flatMap String.utf8EncodeChar := by
  have h : s.toUTF8.toList = s.toUTF8.data.toList := by
    rw [ByteArray.toList, toList_loop]
    simp
  rw [bytesOf, h, String.toUTF8_eq_toByteArray, ← String.utf8Encode_toList, List.utf8Encode,
    List.toList_data_toByteArray]

/-! ## Comparing bytes -/

/-- Bytes are compared by their numbers: one is at most another. -/
theorem ofNat_le (m n : Nat) (h : m % 256 ≤ n % 256) : UInt8.ofNat m ≤ UInt8.ofNat n := by
  rw [UInt8.le_iff_toNat_le, UInt8.toNat_ofNat', UInt8.toNat_ofNat']
  exact h

/-- Bytes are compared by their numbers: one is greater than another. -/
theorem not_ofNat_le (m n : Nat) (h : n % 256 < m % 256) : ¬ UInt8.ofNat m ≤ UInt8.ofNat n := by
  rw [UInt8.le_iff_toNat_le, UInt8.toNat_ofNat', UInt8.toNat_ofNat']
  exact Nat.not_le.2 h

/-- Bytes are compared by their numbers: one is less than another. -/
theorem ofNat_lt (m n : Nat) (h : m % 256 < n % 256) : UInt8.ofNat m < UInt8.ofNat n := by
  rw [UInt8.lt_iff_toNat_lt, UInt8.toNat_ofNat', UInt8.toNat_ofNat']
  exact h

/-- Bytes are compared by their numbers: one is at least another. -/
theorem not_ofNat_lt (m n : Nat) (h : n % 256 ≤ m % 256) : ¬ UInt8.ofNat m < UInt8.ofNat n := by
  rw [UInt8.lt_iff_toNat_lt, UInt8.toNat_ofNat', UInt8.toNat_ofNat']
  exact Nat.not_lt.2 h

/-- A number below 256 is that of its byte. -/
theorem toNat_ofNat {n : Nat} (h : n < 256) : (UInt8.ofNat n).toNat = n :=
  UInt8.toNat_ofNat_of_lt' h

/-- A byte between these numbers goes on a character. -/
theorem isContinuation_ofNat {n : Nat} (h : 0x80 ≤ n) (h' : n ≤ 0xBF) :
    isContinuation (UInt8.ofNat n) = true := by
  have h1 : 0x80 ≤ UInt8.ofNat n := ofNat_le 0x80 n (by omega)
  have h2 : UInt8.ofNat n ≤ 0xBF := ofNat_le n 0xBF (by omega)
  simp only [isContinuation, h1, h2, decide_true, Bool.and_self]

/-- A bound that depends on the first byte is one if it is one in both cases. -/
theorem bound_of_first {a k : Nat} (ha : a < 256) (hk : k < 256) {P : UInt8 → Prop} {b c : UInt8}
    (hb : a = k → P b) (hc : a ≠ k → P c) :
    P (if UInt8.ofNat a = UInt8.ofNat k then b else c) := by
  split
  · next h => exact hb (by rw [← toNat_ofNat ha, h, toNat_ofNat hk])
  · next h => exact hc fun hak => h (congrArg UInt8.ofNat hak)

/-! ## Reading a character

One lemma for each number of bytes. The bounds on the second byte are the reader's; the bytes of a
character keep them because it is neither written too long nor a surrogate nor too large. -/

section
variable {a x y z : Nat} (rest : List UInt8)

/-- A byte below 128 is a character. -/
theorem lead_one (ha : a < 0x80) : lead (UInt8.ofNat a) rest = .char (scalar a) 1 := by
  have h1 : UInt8.ofNat a < 0x80 := ofNat_lt a 0x80 (by omega)
  have h2 : (UInt8.ofNat a).toNat = a := toNat_ofNat (by omega)
  simp only [lead, h1, h2, if_true]

/-- Two bytes in these bounds are a character. -/
theorem lead_two (ha : 0xC2 ≤ a) (ha' : a ≤ 0xDF) (hx : 0x80 ≤ x) (hx' : x ≤ 0xBF) :
    lead (UInt8.ofNat a) (UInt8.ofNat x :: rest) =
      .char (scalar ((a - 0xC0) * 64 + x % 64)) 2 := by
  have h1 : ¬ UInt8.ofNat a < 0x80 := not_ofNat_lt a 0x80 (by omega)
  have h2 : 0xC2 ≤ UInt8.ofNat a := ofNat_le 0xC2 a (by omega)
  have h3 : UInt8.ofNat a ≤ 0xDF := ofNat_le a 0xDF (by omega)
  have h4 : (UInt8.ofNat a).toNat = a := toNat_ofNat (by omega)
  have h5 : (UInt8.ofNat x).toNat = x := toNat_ofNat (by omega)
  simp only [lead, h1, h2, h3, h4, h5, isContinuation_ofNat hx hx', decide_true, Bool.and_self,
    if_true, if_false]

/-- Three bytes in these bounds are a character. -/
theorem lead_three (ha : 0xE0 ≤ a) (ha' : a ≤ 0xEF)
    (hx : 0x80 ≤ x) (hx' : x ≤ 0xBF) (hE0 : a = 0xE0 → 0xA0 ≤ x) (hED : a = 0xED → x ≤ 0x9F)
    (hy : 0x80 ≤ y) (hy' : y ≤ 0xBF) :
    lead (UInt8.ofNat a) (UInt8.ofNat x :: UInt8.ofNat y :: rest) =
      .char (scalar ((a - 0xE0) * 4096 + x % 64 * 64 + y % 64)) 3 := by
  have h1 : ¬ UInt8.ofNat a < 0x80 := not_ofNat_lt a 0x80 (by omega)
  have h2 : ¬ UInt8.ofNat a ≤ 0xDF := not_ofNat_le a 0xDF (by omega)
  have h3 : 0xE0 ≤ UInt8.ofNat a := ofNat_le 0xE0 a (by omega)
  have h4 : UInt8.ofNat a ≤ 0xEF := ofNat_le a 0xEF (by omega)
  have h5 : (if UInt8.ofNat a = 0xE0 then (0xA0 : UInt8) else 0x80) ≤ UInt8.ofNat x := by
    refine bound_of_first (k := 0xE0) (P := (· ≤ UInt8.ofNat x)) (by omega) (by decide) ?_ ?_
    · exact fun h => ofNat_le 0xA0 x (by omega)
    · exact fun _ => ofNat_le 0x80 x (by omega)
  have h6 : UInt8.ofNat x ≤ if UInt8.ofNat a = 0xED then (0x9F : UInt8) else 0xBF := by
    refine bound_of_first (k := 0xED) (P := (UInt8.ofNat x ≤ ·)) (by omega) (by decide) ?_ ?_
    · exact fun h => ofNat_le x 0x9F (by omega)
    · exact fun _ => ofNat_le x 0xBF (by omega)
  have h7 : (UInt8.ofNat a).toNat = a := toNat_ofNat (by omega)
  have h8 : (UInt8.ofNat x).toNat = x := toNat_ofNat (by omega)
  have h9 : (UInt8.ofNat y).toNat = y := toNat_ofNat (by omega)
  simp only [lead, h1, h2, h3, h4, h5, h6, h7, h8, h9, isContinuation_ofNat hy hy', decide_true,
    decide_false, Bool.and_self, Bool.and_false, Bool.false_eq_true, if_true, if_false]

/-- Four bytes in these bounds are a character. -/
theorem lead_four (ha : 0xF0 ≤ a) (ha' : a ≤ 0xF4)
    (hx : 0x80 ≤ x) (hx' : x ≤ 0xBF) (hF0 : a = 0xF0 → 0x90 ≤ x) (hF4 : a = 0xF4 → x ≤ 0x8F)
    (hy : 0x80 ≤ y) (hy' : y ≤ 0xBF) (hz : 0x80 ≤ z) (hz' : z ≤ 0xBF) :
    lead (UInt8.ofNat a) (UInt8.ofNat x :: UInt8.ofNat y :: UInt8.ofNat z :: rest) =
      .char (scalar ((a - 0xF0) * 262144 + x % 64 * 4096 + y % 64 * 64 + z % 64)) 4 := by
  have h1 : ¬ UInt8.ofNat a < 0x80 := not_ofNat_lt a 0x80 (by omega)
  have h2 : ¬ UInt8.ofNat a ≤ 0xDF := not_ofNat_le a 0xDF (by omega)
  have h3 : ¬ UInt8.ofNat a ≤ 0xEF := not_ofNat_le a 0xEF (by omega)
  have h4 : 0xF0 ≤ UInt8.ofNat a := ofNat_le 0xF0 a (by omega)
  have h5 : UInt8.ofNat a ≤ 0xF4 := ofNat_le a 0xF4 (by omega)
  have h6 : (if UInt8.ofNat a = 0xF0 then (0x90 : UInt8) else 0x80) ≤ UInt8.ofNat x := by
    refine bound_of_first (k := 0xF0) (P := (· ≤ UInt8.ofNat x)) (by omega) (by decide) ?_ ?_
    · exact fun h => ofNat_le 0x90 x (by omega)
    · exact fun _ => ofNat_le 0x80 x (by omega)
  have h7 : UInt8.ofNat x ≤ if UInt8.ofNat a = 0xF4 then (0x8F : UInt8) else 0xBF := by
    refine bound_of_first (k := 0xF4) (P := (UInt8.ofNat x ≤ ·)) (by omega) (by decide) ?_ ?_
    · exact fun h => ofNat_le x 0x8F (by omega)
    · exact fun _ => ofNat_le x 0xBF (by omega)
  have h8 : (UInt8.ofNat a).toNat = a := toNat_ofNat (by omega)
  have h9 : (UInt8.ofNat x).toNat = x := toNat_ofNat (by omega)
  have h10 : (UInt8.ofNat y).toNat = y := toNat_ofNat (by omega)
  have h11 : (UInt8.ofNat z).toNat = z := toNat_ofNat (by omega)
  simp only [lead, h1, h2, h3, h4, h5, h6, h7, h8, h9, h10, h11, isContinuation_ofNat hy hy',
    isContinuation_ofNat hz hz', decide_true, decide_false, Bool.and_self, Bool.and_false,
    Bool.false_eq_true, if_true, if_false]

end

/-- A character is what its bytes begin with, whatever comes after them. -/
theorem lead_encoded (c : Char) (rest : List UInt8) :
    ∃ b bs, String.utf8EncodeChar c = b :: bs ∧ lead b (bs ++ rest) = .char c (bs.length + 1) := by
  have hc : c.val.toNat < 0xD800 ∨ 0xDFFF < c.val.toNat ∧ c.val.toNat < 0x110000 := c.valid
  have hscalar {n : Nat} (h : n = c.val.toNat) : scalar n = c := by
    rw [h, scalar]
    exact Char.ofNat_toNat c
  -- What is read adds up to the code point again, whatever the number of bytes.
  simp only [String.utf8EncodeChar]
  generalize c.val.toNat = v at hc hscalar
  split
  · rw [← hscalar rfl]
    exact ⟨_, _, rfl, lead_one rest (by omega)⟩
  split
  · rw [← hscalar (n := (v / 64 % 32 + 192 - 192) * 64 + (v % 64 + 128) % 64) (by omega)]
    exact ⟨_, _, rfl, lead_two rest (by omega) (by omega) (by omega) (by omega)⟩
  split
  · rw [← hscalar (n := (v / 4096 % 16 + 224 - 224) * 4096 + (v / 64 % 64 + 128) % 64 * 64 +
      (v % 64 + 128) % 64) (by omega)]
    exact ⟨_, _, rfl, lead_three rest (by omega) (by omega) (by omega) (by omega) (by omega)
      (by omega) (by omega) (by omega)⟩
  · rw [← hscalar (n := (v / 262144 % 8 + 240 - 240) * 262144 +
      (v / 4096 % 64 + 128) % 64 * 4096 + (v / 64 % 64 + 128) % 64 * 64 + (v % 64 + 128) % 64)
      (by omega)]
    exact ⟨_, _, rfl, lead_four rest (by omega) (by omega) (by omega) (by omega) (by omega)
      (by omega) (by omega) (by omega) (by omega) (by omega)⟩

/-! ## Reading a text -/

/-- The bytes of a character that has been read are skipped. -/
theorem strictFrom_skip (bs rest : List UInt8) :
    strictFrom bs.length (bs ++ rest) = strictFrom 0 rest := by
  induction bs with
  | nil => rfl
  | cons b bs ih => exact ih

/-- The bytes of characters are read as these. -/
theorem strictFrom_encoded (cs : List Char) :
    strictFrom 0 (cs.flatMap String.utf8EncodeChar) = some cs := by
  induction cs with
  | nil => rfl
  | cons c cs ih =>
    obtain ⟨b, bs, hb, hlead⟩ := lead_encoded c (cs.flatMap String.utf8EncodeChar)
    rw [List.flatMap_cons, hb, List.cons_append, strictFrom, hlead]
    simp only [Nat.add_sub_cancel, strictFrom_skip, ih, Option.map_some]

/-- A text is what its bytes are read as. -/
theorem ofBytes?_bytesOf (s : String) : ofBytes? (bytesOf s) = some s := by
  rw [ofBytes?, bytesOf_eq, strictFrom_encoded, Option.map_some, String.ofList_toList]

/-! ## Nothing else is read as a text

The other way round, bytes that are read as a text are the bytes that write it: there is one lemma
for each number of bytes again, and a reader that takes a character leaves what comes after it.
-/

/-- A byte is that of its number. -/
theorem ofNat_eq {n : Nat} {b : UInt8} (h : n = b.toNat) : UInt8.ofNat n = b := by
  rw [h, UInt8.ofNat_toNat]

/-- A valid number is that of its character. -/
theorem toNat_scalar {n : Nat} (h : n.isValidChar) : (scalar n).val.toNat = n := by
  rw [scalar, Char.ofNat, dif_pos h]
  rfl

/-- A byte goes on a character if it is between these numbers. -/
theorem isContinuation_iff {b : UInt8} :
    isContinuation b = true ↔ 0x80 ≤ b.toNat ∧ b.toNat ≤ 0xBF := by
  simp only [isContinuation, Bool.and_eq_true, decide_eq_true_eq, UInt8.le_iff_toNat_le]
  rfl

/-- A bound that depends on the first byte, in numbers. -/
theorem toNat_ite_le {b k lo hi x : UInt8} (h : (if b = k then lo else hi) ≤ x) :
    (b.toNat = k.toNat → lo.toNat ≤ x.toNat) ∧ (b.toNat ≠ k.toNat → hi.toNat ≤ x.toNat) := by
  rw [UInt8.le_iff_toNat_le, apply_ite UInt8.toNat] at h
  simp only [← UInt8.toNat_inj] at h
  split at h <;> omega

/-- A bound that depends on the first byte is read as one in each case. -/
theorem le_toNat_ite {b k lo hi x : UInt8} (h : x ≤ if b = k then lo else hi) :
    (b.toNat = k.toNat → x.toNat ≤ lo.toNat) ∧ (b.toNat ≠ k.toNat → x.toNat ≤ hi.toNat) := by
  rw [UInt8.le_iff_toNat_le, apply_ite UInt8.toNat] at h
  simp only [← UInt8.toNat_inj] at h
  split at h <;> omega

section
variable {b x y z : UInt8}

/-- A character below 128 is written as one byte. -/
theorem encoded_one (hb : b.toNat < 0x80) : String.utf8EncodeChar (scalar b.toNat) = [b] := by
  have hvalid : b.toNat.isValidChar := .inl (by omega)
  simp only [String.utf8EncodeChar, toNat_scalar hvalid]
  rw [if_pos (by omega), ofNat_eq rfl]

/-- The character of two bytes is written as these. -/
theorem encoded_two (hb : 0xC2 ≤ b.toNat) (hb' : b.toNat ≤ 0xDF) (hx : isContinuation x = true) :
    String.utf8EncodeChar (scalar ((b.toNat - 0xC0) * 64 + x.toNat % 64)) = [b, x] := by
  have hx := isContinuation_iff.1 hx
  generalize hn : (b.toNat - 0xC0) * 64 + x.toNat % 64 = n
  have hvalid : n.isValidChar := .inl (by omega)
  simp only [String.utf8EncodeChar, toNat_scalar hvalid]
  rw [if_neg (by omega), if_pos (by omega), ofNat_eq (b := b) (by omega),
    ofNat_eq (b := x) (by omega)]

/-- The character of three bytes is written as these. -/
theorem encoded_three (hb : 0xE0 ≤ b.toNat) (hb' : b.toNat ≤ 0xEF)
    (hx : (if b = 0xE0 then 0xA0 else 0x80) ≤ x) (hx' : x ≤ if b = 0xED then 0x9F else 0xBF)
    (hy : isContinuation y = true) :
    String.utf8EncodeChar (scalar ((b.toNat - 0xE0) * 4096 + x.toNat % 64 * 64 + y.toNat % 64)) =
      [b, x, y] := by
  have hx : (b.toNat = 0xE0 → 0xA0 ≤ x.toNat) ∧ (b.toNat ≠ 0xE0 → 0x80 ≤ x.toNat) :=
    toNat_ite_le hx
  have hx' : (b.toNat = 0xED → x.toNat ≤ 0x9F) ∧ (b.toNat ≠ 0xED → x.toNat ≤ 0xBF) :=
    le_toNat_ite hx'
  have hy := isContinuation_iff.1 hy
  generalize hn : (b.toNat - 0xE0) * 4096 + x.toNat % 64 * 64 + y.toNat % 64 = n
  have hvalid : n < 0xD800 ∨ 0xDFFF < n ∧ n < 0x110000 := by omega
  simp only [String.utf8EncodeChar, toNat_scalar hvalid]
  rw [if_neg (by omega), if_neg (by omega), if_pos (by omega), ofNat_eq (b := b) (by omega),
    ofNat_eq (b := x) (by omega), ofNat_eq (b := y) (by omega)]

/-- The character of four bytes is written as these. -/
theorem encoded_four (hb : 0xF0 ≤ b.toNat) (hb' : b.toNat ≤ 0xF4)
    (hx : (if b = 0xF0 then 0x90 else 0x80) ≤ x) (hx' : x ≤ if b = 0xF4 then 0x8F else 0xBF)
    (hy : isContinuation y = true) (hz : isContinuation z = true) :
    String.utf8EncodeChar (scalar ((b.toNat - 0xF0) * 262144 + x.toNat % 64 * 4096 +
      y.toNat % 64 * 64 + z.toNat % 64)) = [b, x, y, z] := by
  have hx : (b.toNat = 0xF0 → 0x90 ≤ x.toNat) ∧ (b.toNat ≠ 0xF0 → 0x80 ≤ x.toNat) :=
    toNat_ite_le hx
  have hx' : (b.toNat = 0xF4 → x.toNat ≤ 0x8F) ∧ (b.toNat ≠ 0xF4 → x.toNat ≤ 0xBF) :=
    le_toNat_ite hx'
  have hy := isContinuation_iff.1 hy
  have hz := isContinuation_iff.1 hz
  generalize hn : (b.toNat - 0xF0) * 262144 + x.toNat % 64 * 4096 + y.toNat % 64 * 64 +
    z.toNat % 64 = n
  have hvalid : n < 0xD800 ∨ 0xDFFF < n ∧ n < 0x110000 := by omega
  simp only [String.utf8EncodeChar, toNat_scalar hvalid]
  rw [if_neg (by omega), if_neg (by omega), if_neg (by omega), ofNat_eq (b := b) (by omega),
    ofNat_eq (b := x) (by omega), ofNat_eq (b := y) (by omega), ofNat_eq (b := z) (by omega)]

end

/-- The bytes that a character was read from write it. -/
theorem encoded_of_lead {b : UInt8} {rest : List UInt8} {c : Char} {width : Nat}
    (h : lead b rest = .char c width) : ∃ bs more, rest = bs ++ more ∧ width = bs.length + 1 ∧
      String.utf8EncodeChar c = b :: bs := by
  unfold lead at h
  simp only [Bool.and_eq_true, decide_eq_true_eq] at h
  by_cases h1 : b < 0x80
  · rw [if_pos h1] at h
    cases h
    exact ⟨[], rest, rfl, rfl, encoded_one (UInt8.lt_iff_toNat_lt.1 h1)⟩
  rw [if_neg h1] at h
  by_cases h2 : 0xC2 ≤ b ∧ b ≤ 0xDF
  · rw [if_pos h2] at h
    obtain _ | ⟨x, more⟩ := rest
    · cases h
    by_cases hx : isContinuation x = true
    · simp only [if_pos hx] at h
      cases h
      exact ⟨[x], more, rfl, rfl,
        encoded_two (UInt8.le_iff_toNat_le.1 h2.1) (UInt8.le_iff_toNat_le.1 h2.2) hx⟩
    · simp only [if_neg hx] at h
      cases h
  rw [if_neg h2] at h
  by_cases h3 : 0xE0 ≤ b ∧ b ≤ 0xEF
  · rw [if_pos h3] at h
    obtain _ | ⟨x, more⟩ := rest
    · cases h
    by_cases hx : (if b = 0xE0 then 0xA0 else 0x80) ≤ x ∧ x ≤ if b = 0xED then 0x9F else 0xBF
    · simp only [if_pos hx] at h
      obtain _ | ⟨y, more⟩ := more
      · cases h
      by_cases hy : isContinuation y = true
      · simp only [if_pos hy] at h
        cases h
        exact ⟨[x, y], more, rfl, rfl, encoded_three (UInt8.le_iff_toNat_le.1 h3.1)
          (UInt8.le_iff_toNat_le.1 h3.2) hx.1 hx.2 hy⟩
      · simp only [if_neg hy] at h
        cases h
    · simp only [if_neg hx] at h
      cases h
  rw [if_neg h3] at h
  by_cases h4 : 0xF0 ≤ b ∧ b ≤ 0xF4
  · rw [if_pos h4] at h
    obtain _ | ⟨x, more⟩ := rest
    · cases h
    by_cases hx : (if b = 0xF0 then 0x90 else 0x80) ≤ x ∧ x ≤ if b = 0xF4 then 0x8F else 0xBF
    · simp only [if_pos hx] at h
      obtain _ | ⟨y, more⟩ := more
      · cases h
      by_cases hy : isContinuation y = true
      · simp only [if_pos hy] at h
        obtain _ | ⟨z, more⟩ := more
        · cases h
        by_cases hz : isContinuation z = true
        · simp only [if_pos hz] at h
          cases h
          exact ⟨[x, y, z], more, rfl, rfl, encoded_four (UInt8.le_iff_toNat_le.1 h4.1)
            (UInt8.le_iff_toNat_le.1 h4.2) hx.1 hx.2 hy hz⟩
        · simp only [if_neg hz] at h
          cases h
      · simp only [if_neg hy] at h
        cases h
    · simp only [if_neg hx] at h
      cases h
  · rw [if_neg h4] at h
    cases h

/-- Bytes that are read as characters are those that write them. -/
theorem encoded_of_strictFrom {bytes : List UInt8} {cs : List Char}
    (h : strictFrom 0 bytes = some cs) : bytes = cs.flatMap String.utf8EncodeChar := by
  induction hn : bytes.length using Nat.strongRecOn generalizing bytes cs with
  | ind n ih =>
    cases bytes with
    | nil =>
      cases h
      rfl
    | cons b rest =>
      rw [strictFrom] at h
      split at h
      · next c width hlead =>
        obtain ⟨bs, more, rfl, rfl, henc⟩ := encoded_of_lead hlead
        rw [Nat.add_sub_cancel, strictFrom_skip, Option.map_eq_some_iff] at h
        obtain ⟨cs, hcs, rfl⟩ := h
        have hmore : more.length < n := by
          rw [← hn, List.length_cons, List.length_append]
          omega
        rw [List.flatMap_cons, henc, ← ih _ hmore hcs rfl, List.cons_append]
      · cases h

/-- Bytes are read as a text just if they write it. -/
theorem ofBytes?_eq_some {bytes : List UInt8} {s : String} :
    ofBytes? bytes = some s ↔ bytes = bytesOf s := by
  constructor
  · intro h
    obtain ⟨cs, hcs, rfl⟩ := Option.map_eq_some_iff.1 h
    rw [bytesOf_eq, String.toList_ofList]
    exact encoded_of_strictFrom hcs
  · rintro rfl
    exact ofBytes?_bytesOf s

end Provision.Text
