import Mathlib.Data.List.TakeWhile
import Provision.Recipe.Source

/-!
# Paths and addresses

An address has the scheme that its text begins with (`Url.scheme_of_ofText`), and a text begins with
one just if it does so after the white space and control characters at its beginning, and without
its tabs and line breaks (`Url.scheme?_significant`). So a text is taken for an address only if it
begins with a scheme of two characters or more (`Url.Schemed`) and reads as an address; every other
text is a path, as it is (`Location.ofText_classified`).
-/

namespace Provision

namespace Url

/-! ## The scheme of an address -/

/-- What comes out, if anything, is an address with the scheme. -/
def HasScheme (scheme : String) (x : Except Problem Url) : Prop :=
  ∀ u, x = .ok u → u.scheme = scheme

namespace HasScheme

variable {α : Type} {scheme : String} {x y : Except Problem Url} {c : Prop} [Decidable c]

/-- An address with a scheme has this scheme. -/
theorem ok {u : Url} (h : u.scheme = scheme) : HasScheme scheme (.ok u) := by
  rintro _ ⟨⟩
  exact h

/-- What is no address has any scheme. -/
theorem error (p : Problem) : HasScheme scheme (.error p) := nofun

/-- What is read in two steps has the scheme that the second one gives. -/
theorem bind {x : Except Problem α} {f : α → Except Problem Url}
    (h : ∀ a, HasScheme scheme (f a)) : HasScheme scheme (x >>= f) := by
  cases x with
  | error p => exact error p
  | ok a => exact h a

/-- What is read in one of two ways has the scheme that both give. -/
theorem ite (hx : HasScheme scheme x) (hy : HasScheme scheme y) :
    HasScheme scheme (if c then x else y) := by
  split
  · exact hx
  · exact hy

/-- Reading that may stop on a condition. -/
theorem stop_or {p : Problem} {f : α → Except Problem Url} (hy : HasScheme scheme y) :
    HasScheme scheme (if c then throw p >>= f else y) :=
  ite (error p) hy

/-- Reading that goes on with one of two values. -/
theorem ite_bind {x y : Except Problem α} {f : α → Except Problem Url}
    (h : ∀ a, HasScheme scheme (f a)) : HasScheme scheme (if c then x >>= f else y >>= f) :=
  ite (bind h) (bind h)

/-- Reading that goes on with a value if a text is there, and else with another one. -/
theorem option_bind {o : Option (List Char)} {x : List Char → Except Problem α}
    {y : Except Problem α} {f : α → Except Problem Url} (h : ∀ a, HasScheme scheme (f a)) :
    HasScheme scheme (match o with
      | some text => x text >>= f
      | none => y >>= f) := by
  cases o with
  | some text => exact bind h
  | none => exact bind h

end HasScheme

/-- An address with an authority keeps its scheme. -/
theorem hasScheme_withAuthority (scheme : String) (k : Kind) (cs : List Char) :
    HasScheme scheme (withAuthority scheme k cs) := by
  refine .stop_or (.stop_or (.ite_bind fun host => .stop_or ?_))
  exact .option_bind fun port => .stop_or (.ok rfl)

/-- The address of a file keeps its scheme. -/
theorem hasScheme_fileFrom (cs : List Char) : HasScheme "file" (fileFrom cs) := by
  match cs with
  | [] => exact .ok rfl
  | [c] => exact .ok rfl
  | c :: d :: rest =>
    refine .ite (.ite (.ok rfl) (.ite_bind fun host => ?_)) (.ok rfl)
    exact .ite (.ok rfl) (.ok rfl)

/-- Any other address keeps its scheme. -/
theorem hasScheme_otherFrom (scheme : String) (cs : List Char) :
    HasScheme scheme (otherFrom scheme cs) := by
  unfold otherFrom
  split
  · exact hasScheme_withAuthority scheme .other _
  · exact .ok rfl
  · exact .ok rfl

/-- An address has the scheme that its text begins with. -/
theorem scheme_of_ofText {s : String} {u : Url} (h : ofText s = .ok u) :
    ∃ name rest, scheme? (significant s.toList) = some (name, rest) ∧
      u.scheme = String.ofList name := by
  unfold ofText at h
  cases hscheme : scheme? (significant s.toList) with
  | none =>
    rw [hscheme] at h
    cases h
  | some found =>
    obtain ⟨name, rest⟩ := found
    refine ⟨name, rest, rfl, ?_⟩
    simp only [hscheme] at h
    cases hkind : kindOf (String.ofList name) with
    | file =>
      rw [hkind] at h
      have hfile : String.ofList name = "file" := by
        unfold kindOf at hkind
        split at hkind
        · assumption
        · split at hkind <;> cases hkind
      rw [hfile]
      exact hasScheme_fileFrom rest u h
    | special =>
      rw [hkind] at h
      exact hasScheme_withAuthority _ .special _ u h
    | other =>
      rw [hkind] at h
      exact hasScheme_otherFrom _ rest u h

/-! ## How a text begins -/

/-- Neither a tab nor a line break. -/
def inLine (c : Char) : Bool := c != '\t' && c != '\n' && c != '\r'

/-- The characters that count at the beginning of a text: those from the first on that is no white
space or control character, without tabs and line breaks. -/
def counted (cs : List Char) : List Char := (cs.dropWhile (·.toNat ≤ 0x20)).filter inLine

/-- A text that begins with a scheme of two characters or more: a letter, then letters, digits and
three signs, and then a colon. -/
def Schemed (s : String) : Prop :=
  ∃ first second more rest, counted s.toList = first :: second :: more ++ ':' :: rest ∧
    first.isAlpha = true ∧
    ∀ c ∈ second :: more, c.isAlpha ∨ c.isDigit ∨ c = '+' ∨ c = '-' ∨ c = '.'

/-- After its first character, letters, digits and three signs make up a scheme. -/
theorem isSchemeChar_iff {c : Char} : isSchemeChar c = true ↔
    c.isAlpha ∨ c.isDigit ∨ c = '+' ∨ c = '-' ∨ c = '.' := by
  simp [isSchemeChar, Char.isAlphanum, or_assoc]

/-- A scheme is what stands before a colon, if it begins with a letter. -/
theorem scheme?_eq_some {cs name rest : List Char} : scheme? cs = some (name, rest) ↔
    ∃ first more, cs = first :: more ++ ':' :: rest ∧ first.isAlpha = true ∧
      (∀ c ∈ more, isSchemeChar c = true) ∧ name = (first :: more).map Char.toLower := by
  constructor
  · intro h
    unfold scheme? at h
    obtain ⟨after, hafter⟩ := List.takeWhile_prefix (l := cs) isSchemeChar
    have hall : ∀ c ∈ cs.takeWhile isSchemeChar, isSchemeChar c = true :=
      fun c => List.mem_takeWhile_imp
    generalize cs.takeWhile isSchemeChar = before at *
    subst hafter
    simp only [List.drop_left] at h
    split at h
    · next first rest' hhead =>
      split at h
      · next hfirst =>
        obtain ⟨rfl, rfl⟩ := Prod.mk.inj (Option.some.inj h)
        cases before with
        | nil =>
          obtain rfl : ':' = first := Option.some.inj hhead
          exact absurd hfirst (by decide)
        | cons b more =>
          obtain rfl : b = first := Option.some.inj hhead
          exact ⟨b, more, rfl, hfirst, (List.forall_mem_cons.1 hall).2, rfl⟩
      · cases h
    · cases h
  · rintro ⟨first, more, rfl, hfirst, hmore, rfl⟩
    have hname : (first :: more ++ ':' :: rest).takeWhile isSchemeChar = first :: more := by
      have hall : ∀ c ∈ first :: more, isSchemeChar c = true :=
        List.forall_mem_cons.2 ⟨isSchemeChar_iff.2 (.inl hfirst), hmore⟩
      rw [List.takeWhile_append_of_pos hall]
      exact List.append_nil _
    unfold scheme?
    simp only [hname, List.drop_left]
    simp [hfirst]

/-- White space and control characters belong to no scheme and are no colon. -/
theorem not_isSchemeChar_of_edge {c : Char} (h : isEdge c = true) :
    isSchemeChar c = false ∧ c ≠ ':' := by
  have hall : ∀ n ≤ 0x20, isSchemeChar (Char.ofNat n) = false ∧ Char.ofNat n ≠ ':' := by decide
  rw [← Char.ofNat_toNat c]
  exact hall c.toNat (of_decide_eq_true h)

/-- What does not count at the end of a text, though it does at the beginning, is no part of a
scheme. -/
theorem counted_eq (cs : List Char) : ∃ ending, counted cs = significant cs ++ ending ∧
    ∀ c ∈ ending, isSchemeChar c = false ∧ c ≠ ':' := by
  let text := cs.dropWhile isEdge
  have hcut : text = (text.reverse.dropWhile isEdge).reverse ++
      (text.reverse.takeWhile isEdge).reverse := by
    rw [← List.reverse_append, List.takeWhile_append_dropWhile, List.reverse_reverse]
  refine ⟨(text.reverse.takeWhile isEdge).reverse.filter inLine, ?_, fun c hc => ?_⟩
  · exact (congrArg (List.filter inLine) hcut).trans (List.filter_append ..)
  · have hmem := List.mem_reverse.1 (List.mem_filter.1 hc).1
    exact not_isSchemeChar_of_edge (List.mem_takeWhile_imp hmem)

/-- A text begins with a scheme just if the characters that count at its beginning do. -/
theorem scheme?_significant {cs name : List Char} :
    (∃ rest, scheme? (significant cs) = some (name, rest)) ↔
      ∃ first more rest, counted cs = first :: more ++ ':' :: rest ∧ first.isAlpha = true ∧
        (∀ c ∈ more, isSchemeChar c = true) ∧ name = (first :: more).map Char.toLower := by
  obtain ⟨ending, hending, hedges⟩ := counted_eq cs
  simp only [scheme?_eq_some, hending]
  constructor
  · rintro ⟨rest, first, more, hcs, hfirst, hmore, hname⟩
    exact ⟨first, more, rest ++ ending, by simp [hcs], hfirst, hmore, hname⟩
  · rintro ⟨first, more, rest, hcs, hfirst, hmore, hname⟩
    -- The colon does not stand in the ending, so the scheme ends before it.
    rcases List.append_eq_append_iff.1 hcs with ⟨part, -, hpart⟩ | ⟨part, hpart, hrest⟩
    · have hcolon : ':' ∈ ending := hpart ▸ List.mem_append_right _ List.mem_cons_self
      exact absurd rfl (hedges ':' hcolon).2
    · cases part with
      | nil =>
        have hcolon : ':' ∈ ending := (List.nil_append ending ▸ hrest) ▸ List.mem_cons_self
        exact absurd rfl (hedges ':' hcolon).2
      | cons c part =>
        obtain ⟨rfl, -⟩ := List.cons.inj hrest
        exact ⟨part, first, more, hpart, hfirst, hmore, hname⟩

/-- The scheme of an address has two characters or more just if its text begins with such a
scheme. -/
theorem schemed_iff {s : String} {u : Url} (h : ofText s = .ok u) :
    Schemed s ↔ 1 < u.scheme.length := by
  obtain ⟨name, rest, hscheme, hu⟩ := scheme_of_ofText h
  obtain ⟨first, more, after, hcounted, hfirst, hmore, rfl⟩ :=
    scheme?_significant.1 ⟨rest, hscheme⟩
  rw [hu, String.length_ofList, List.length_map, List.length_cons]
  constructor
  · rintro ⟨first', second, more', rest', hcounted', -, hmore'⟩
    cases more with
    | nil =>
      have heads := hcounted.symm.trans hcounted'
      have hsecond : ':' = second := (List.cons.inj (List.cons.inj heads).2).1
      exact absurd (hsecond ▸ hmore' second List.mem_cons_self) (by decide)
    | cons c more => simp
  · intro hlength
    cases more with
    | nil => simp at hlength
    | cons second more =>
      refine ⟨first, second, more, after, hcounted, hfirst, fun c hc => ?_⟩
      exact isSchemeChar_iff.1 (hmore c hc)

/-! ## Texts that begin otherwise -/

section
variable {c : Char} {rest : List Char}

/-- White space and control characters at the beginning do not count. -/
theorem counted_of_edge (hc : isEdge c = true) : counted (c :: rest) = counted rest :=
  congrArg (List.filter inLine) (List.dropWhile_cons_of_pos hc)

/-- Tabs and line breaks are white space. -/
theorem inLine_of_not_edge (hc : isEdge c = false) : inLine c = true := by
  have hne {e : Char} (he : isEdge e = true) : c ≠ e := by
    rintro rfl
    exact Bool.false_ne_true (hc.symm.trans he)
  simp [inLine, hne (e := '\t') rfl, hne (e := '\n') rfl, hne (e := '\r') rfl]

/-- From the first character that counts, only tabs and line breaks do not. -/
theorem counted_of_not_edge (hc : isEdge c = false) :
    counted (c :: rest) = c :: rest.filter inLine := by
  have hdrop : (c :: rest).dropWhile (fun c => decide (c.toNat ≤ 0x20)) = c :: rest :=
    List.dropWhile_cons_of_neg (Bool.eq_false_iff.1 hc)
  rw [counted, hdrop, List.filter_cons_of_pos (inLine_of_not_edge hc)]

variable {s : String}

/-- A text that begins with no letter begins with no scheme. -/
theorem not_schemed_of_not_isAlpha (hs : counted s.toList = c :: rest) (hc : c.isAlpha = false) :
    ¬ Schemed s := by
  rintro ⟨first, second, more, after, hcounted, hfirst, -⟩
  obtain ⟨rfl, -⟩ := List.cons.inj (hs.symm.trans hcounted)
  exact Bool.false_ne_true (hc.symm.trans hfirst)

/-- The letter of a drive is no scheme of two characters. -/
theorem not_schemed_of_colon (hs : s.toList = c :: ':' :: rest) : ¬ Schemed s := by
  cases hc : isEdge c with
  | true =>
    have hcounted : counted s.toList = ':' :: rest.filter inLine := by
      rw [hs, counted_of_edge hc, counted_of_not_edge rfl]
    exact not_schemed_of_not_isAlpha hcounted rfl
  | false =>
    rintro ⟨first, second, more, after, hcounted, -, hmore⟩
    rw [hs, counted_of_not_edge hc] at hcounted
    have hsecond : ':' = second := (List.cons.inj (List.cons.inj hcounted).2).1
    exact absurd (hsecond ▸ hmore second List.mem_cons_self) (by decide)

/-- A text that begins with a scheme has a colon. -/
theorem colon_mem_of_schemed (h : Schemed s) : ':' ∈ s.toList := by
  obtain ⟨first, second, more, rest, hcounted, -⟩ := h
  have hmem : ':' ∈ counted s.toList := by simp [hcounted]
  exact (List.dropWhile_sublist _).subset (List.mem_filter.1 hmem).1

/-- A digit is no white space and no letter. -/
theorem digit_bounds (hc : c.isDigit = true) : isEdge c = false ∧ c.isAlpha = false := by
  have hall : ∀ n ≤ 57, 48 ≤ n →
      isEdge (Char.ofNat n) = false ∧ (Char.ofNat n).isAlpha = false := by decide
  obtain ⟨hlow, hhigh⟩ : 48 ≤ c.toNat ∧ c.toNat ≤ 57 := by
    simpa [Char.isDigit, UInt32.le_iff_toNat_le] using hc
  rw [← Char.ofNat_toNat c]
  exact hall c.toNat hhigh hlow

/-- A slash, a dot or a digit at the beginning of a text is no letter of a scheme. -/
theorem not_schemed_of_head (hs : s.toList = c :: rest)
    (hc : c = '/' ∨ c = '.' ∨ c.isDigit = true) : ¬ Schemed s := by
  obtain ⟨hedge, halpha⟩ : isEdge c = false ∧ c.isAlpha = false := by
    rcases hc with rfl | rfl | hdigit
    · exact ⟨rfl, rfl⟩
    · exact ⟨rfl, rfl⟩
    · exact digit_bounds hdigit
  exact not_schemed_of_not_isAlpha (hs ▸ counted_of_not_edge hedge) halpha

end

end Url

namespace Location

open Url (Schemed)

/-- A text that begins with no scheme is a path. -/
theorem ofText_of_not_schemed {s : String} (h : ¬ Schemed s) : ofText s = .path s := by
  unfold ofText
  cases hu : Url.ofText s with
  | error p => rfl
  | ok u => exact if_neg ((Url.schemed_iff hu).not.1 h)

/-- A text is taken for an address just if it begins with a scheme of two characters or more and
reads as an address; in every other case it is a path, as it is. -/
theorem ofText_classified (s : String) :
    (∀ u, ofText s = .url u ↔ Schemed s ∧ Url.ofText s = .ok u) ∧
    (¬ Schemed s ∨ (∃ p, Url.ofText s = .error p) → ofText s = .path s) ∧
    (∀ letter rest, s.toList = letter :: ':' :: rest → ofText s = .path s) ∧
    (':' ∉ s.toList → ofText s = .path s) ∧
    (∀ first rest, s.toList = first :: rest →
      first = '/' ∨ first = '.' ∨ first.isDigit = true → ofText s = .path s) := by
  refine ⟨fun u => ?_, ?_, fun letter rest hs => ?_, fun hs => ?_, fun first rest hs hfirst => ?_⟩
  · unfold ofText
    cases hu : Url.ofText s with
    | error p => simp
    | ok v =>
      rw [Url.schemed_iff hu, Except.ok.injEq]
      by_cases hlength : 1 < v.scheme.length <;> simp [hlength]
  · rintro (h | ⟨p, hp⟩)
    · exact ofText_of_not_schemed h
    · rw [ofText, hp]
  · exact ofText_of_not_schemed (Url.not_schemed_of_colon hs)
  · exact ofText_of_not_schemed fun h => hs (Url.colon_mem_of_schemed h)
  · exact ofText_of_not_schemed (Url.not_schemed_of_head hs hfirst)

/-- White space before a scheme and breaks in it do not make a path of an address. -/
example : Schemed " ht\ntp://a" := ⟨'h', 't', ['t', 'p'], ['/', '/', 'a'], rfl, rfl, by simp⟩

end Location

end Provision
