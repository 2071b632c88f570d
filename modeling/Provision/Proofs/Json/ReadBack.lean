import Provision.Json.Printer
import Provision.Json.Reader

/-!
# Reading back what was written in JSON

A value without numbers that nests less than 128 deep is written as a text that is read as that
value (`Value.ofText?_pretty`). Strings come first (`stringFrom_escaped`), then values by
induction on their nesting (`Nested`): each reader gets through the text that the printer makes for
its part and stops behind it, as long as its bound is at least the length of that text.
-/

namespace Provision.Json

/-! ## Strings -/

/-- A digit of base sixteen is read back. -/
theorem hexDigit?_hexChar : ∀ n < 16, hexDigit? (hexChar n) = some n := by decide

/-- An escaped control character is read back. -/
theorem escapedUnit?_control {c : Char} (h : c.toNat < 0x20) (rest : List Char) :
    escapedUnit? ('0' :: '0' :: hexChar (c.toNat / 16) :: hexChar (c.toNat % 16) :: rest) =
      some (c, rest) := by
  have h1 := hexDigit?_hexChar (c.toNat / 16) (by omega)
  have h2 := hexDigit?_hexChar (c.toNat % 16) (by omega)
  have h0 : hexDigit? '0' = some 0 := by decide
  have hn : (0 * 16 + 0) * 16 + c.toNat / 16 = c.toNat / 16 := by omega
  have hc : c.toNat / 16 * 16 + c.toNat % 16 = c.toNat := by omega
  simp only [escapedUnit?, unit?, h0, h1, h2, Option.bind_eq_bind, Option.bind_some,
    Option.pure_def, hn, hc]
  have h3 : ¬ 0xD800 ≤ c.toNat := by omega
  have h4 : ¬ 0xDC00 ≤ c.toNat := by omega
  simp [h3, h4, Char.ofNat_toNat]

/-- One character of a string is read from what is written for it. -/
theorem stringFrom_escapeChar (c : Char) (bound : Nat) (read rest : List Char) :
    stringFrom (bound + 1) read (escapeChar c ++ rest) = stringFrom bound (c :: read) rest := by
  unfold escapeChar
  split
  case h_8 hquote hslash _ _ _ _ _ =>
    split
    · next h => simp [stringFrom, escapedUnit?_control h]
    · next h =>
      rw [List.singleton_append, stringFrom]
      · simp [h]
      · exact hquote
      · exact fun _ hc => absurd hc hslash
      · exact fun _ _ hc => absurd hc hslash
  all_goals simp [stringFrom, escapedLetter?]

/-- A string is read up to its closing quote. -/
theorem stringFrom_escaped (cs : List Char) {bound : Nat} (read rest : List Char)
    (h : cs.length < bound) :
    stringFrom bound read (cs.flatMap escapeChar ++ '"' :: rest) =
      some (String.ofList (read.reverse ++ cs), rest) := by
  induction cs generalizing bound read with
  | nil =>
    obtain ⟨n, rfl⟩ := Nat.exists_eq_add_of_lt h
    simp [stringFrom]
  | cons c cs ih =>
    obtain ⟨n, rfl⟩ : ∃ n, bound = n + 1 := ⟨bound - 1, by simp at h; omega⟩
    rw [List.flatMap_cons, List.append_assoc, stringFrom_escapeChar,
      ih (c :: read) (by simpa using h)]
    simp

/-- Escaping makes no text shorter. -/
theorem length_le_flatMap_escapeChar (cs : List Char) :
    cs.length ≤ (cs.flatMap escapeChar).length := by
  have one (c : Char) : 1 ≤ (escapeChar c).length := by
    unfold escapeChar
    split
    case h_8 => split <;> simp
    all_goals simp
  induction cs with
  | nil => simp
  | cons c cs ih =>
    have := one c
    simp only [List.flatMap_cons, List.length_append, List.length_cons]
    omega

/-- What follows the opening quote of a written string. -/
theorem toList_quoted (s : String) :
    (quoted s).toList = '"' :: (s.toList.flatMap escapeChar ++ ['"']) := by
  simp [quoted]

/-- A written string is read as it was, whatever follows it. -/
theorem stringFrom_quoted (s : String) (rest : List Char) :
    stringFrom ((s.toList.flatMap escapeChar ++ '"' :: rest).length + 1) []
      (s.toList.flatMap escapeChar ++ '"' :: rest) = some (s, rest) := by
  rw [stringFrom_escaped]
  · simp
  · have := length_le_flatMap_escapeChar s.toList
    simp only [List.length_append]
    omega

/-! ## White space -/

/-- Gaps at the beginning are skipped. -/
theorem skipGap_append {gap : List Char} (h : ∀ c ∈ gap, isGap c = true) (cs : List Char) :
    skipGap (gap ++ cs) = skipGap cs :=
  List.dropWhile_append_of_pos h

/-- Nothing is skipped where there is no gap. -/
theorem skipGap_cons {c : Char} (h : isGap c = false) (cs : List Char) :
    skipGap (c :: cs) = c :: cs := by
  simp [skipGap, h]

/-- Gaps are skipped at once. -/
theorem skipGap_skipGap (cs : List Char) : skipGap (skipGap cs) = skipGap cs := by
  induction cs with
  | nil => rfl
  | cons c cs ih =>
    cases h : isGap c with
    | true => simpa [skipGap, h] using ih
    | false => rw [skipGap_cons h, skipGap_cons h]

/-- A value is read after a gap as without it. -/
theorem valueFrom_skipGap (bound depth : Nat) (cs : List Char) :
    valueFrom bound depth (skipGap cs) = valueFrom bound depth cs := by
  cases bound with
  | zero => rfl
  | succ n => rw [valueFrom, valueFrom, skipGap_skipGap]

/-- Items are read after a gap as without it. -/
theorem itemsFrom_skipGap (bound depth : Nat) (read : List Value) (cs : List Char) :
    itemsFrom bound depth read (skipGap cs) = itemsFrom bound depth read cs := by
  cases bound with
  | zero => rfl
  | succ n => rw [itemsFrom, itemsFrom, valueFrom_skipGap]

/-- Members are read after a gap as without it. -/
theorem membersFrom_skipGap (bound depth : Nat) (read : List (String × Value))
    (cs : List Char) : membersFrom bound depth read (skipGap cs) =
      membersFrom bound depth read cs := by
  cases bound with
  | zero => rfl
  | succ n => rw [membersFrom, membersFrom, skipGap_skipGap]

/-- A gap before a value is passed over. -/
theorem valueFrom_gap {gap : List Char} (h : ∀ c ∈ gap, isGap c = true) (bound depth : Nat)
    (cs : List Char) : valueFrom bound depth (gap ++ cs) = valueFrom bound depth cs := by
  rw [← valueFrom_skipGap, skipGap_append h, valueFrom_skipGap]

/-- A space before a value is passed over. -/
theorem valueFrom_space (bound depth : Nat) (cs : List Char) :
    valueFrom bound depth (' ' :: cs) = valueFrom bound depth cs :=
  @valueFrom_gap [' '] (by simp [isGap]) bound depth cs

/-- A line break and the spaces after it are a gap. -/
theorem isGap_breakAt (level : Nat) : ∀ c ∈ (breakAt level).toList, isGap c = true := by
  intro c hc
  simp only [breakAt, String.toList_ofList, List.mem_cons, List.mem_replicate] at hc
  rcases hc with rfl | ⟨-, rfl⟩ <;> rfl

/-! ## Values -/

/-- A value without numbers in which arrays and objects nest to a depth. -/
inductive Nested : Nat → Value → Prop
  | null (d : Nat) : Nested d .null
  | bool (d : Nat) (b : Bool) : Nested d (.bool b)
  | string (d : Nat) (s : String) : Nested d (.string s)
  | array {d : Nat} {xs : List Value} (h : ∀ x ∈ xs, Nested d x) : Nested (d + 1) (.array xs)
  | object {d : Nat} {ms : List (String × Value)} (h : ∀ m ∈ ms, Nested d m.2) :
      Nested (d + 1) (.object ms)

/-- The texts of the items of an array or the members of an object, each on a line that `item`
begins, up to what closes them. -/
def partsText (item close : List Char) : List (List Char) → List Char
  | [] => close
  | [t] => item ++ t ++ close
  | t :: u :: ts => item ++ t ++ ',' :: partsText item close (u :: ts)

/-- What is written of several items is each on a line of its own, with commas between them. -/
theorem toList_separated (item : String) (close : List Char) (t : String) (ts : List String) :
    item.toList ++ (separated ("," ++ item) (t :: ts)).toList ++ close =
      partsText item.toList close ((t :: ts).map String.toList) := by
  induction ts generalizing t with
  | nil => rfl
  | cons u ts ih =>
    rw [List.map_cons, List.map_cons, partsText, ← List.map_cons, ← ih u, separated]
    simp [List.append_assoc]

/-- The items of an array are written each by itself. -/
theorem prettyItems_eq (level : Nat) (xs : List Value) :
    prettyItems level xs = xs.map (Value.prettyAt level) := by
  induction xs with
  | nil => rfl
  | cons x xs ih => rw [prettyItems, ih, List.map_cons]

/-- The text of a member. -/
def memberText (level : Nat) (m : String × Value) : List Char :=
  (quoted m.1).toList ++ ':' :: ' ' :: (m.2.prettyAt level).toList

/-- The members of an object are written each by itself. -/
theorem prettyMembers_eq (level : Nat) (ms : List (String × Value)) :
    (prettyMembers level ms).map String.toList = ms.map (memberText level) := by
  induction ms with
  | nil => rfl
  | cons m ms ih => simp [prettyMembers, ih, memberText]

/-- The text of an array that has items. -/
theorem toList_prettyAt_array (level : Nat) (x : Value) (xs : List Value) :
    ((Value.array (x :: xs)).prettyAt level).toList =
      '[' :: partsText (breakAt (level + 1)).toList ((breakAt level).toList ++ [']'])
        ((x :: xs).map fun v => (v.prettyAt (level + 1)).toList) := by
  have h := toList_separated (breakAt (level + 1)) ((breakAt level).toList ++ [']'])
    (x.prettyAt (level + 1)) (xs.map (Value.prettyAt (level + 1)))
  simp only [← List.map_cons, List.map_map] at h
  rw [Value.prettyAt, prettyItems_eq]
  simpa [List.append_assoc, Function.comp_def] using h

/-- The text of an object that has members. -/
theorem toList_prettyAt_object (level : Nat) (m : String × Value) (ms : List (String × Value)) :
    ((Value.object (m :: ms)).prettyAt level).toList =
      '\x7b' :: partsText (breakAt (level + 1)).toList ((breakAt level).toList ++ ['\x7d'])
        ((m :: ms).map (memberText (level + 1))) := by
  have h := toList_separated (breakAt (level + 1)) ((breakAt level).toList ++ ['\x7d'])
    (quoted m.1 ++ ": " ++ m.2.prettyAt (level + 1)) (prettyMembers (level + 1) ms)
  rw [Value.prettyAt, ← prettyMembers_eq]
  simpa [List.append_assoc, prettyMembers] using h

/-- The text of items begins with the first of them. -/
theorem partsText_cons (item close t : List Char) (ts : List (List Char)) :
    ∃ tail, partsText item close (t :: ts) = item ++ (t ++ tail) := by
  cases ts with
  | nil => exact ⟨close, by simp [partsText]⟩
  | cons u us => exact ⟨',' :: partsText item close (u :: us), by simp [partsText]⟩

/-- The text of a value begins neither with white space nor with a closing bracket. -/
theorem Nested.head_prettyAt {d : Nat} {v : Value} (h : Nested d v) (level : Nat) :
    ∃ c cs, (v.prettyAt level).toList = c :: cs ∧ isGap c = false ∧ c ≠ ']' := by
  cases h with
  | null => exact ⟨'n', ['u', 'l', 'l'], by simp [Value.prettyAt], rfl, by decide⟩
  | bool _ b => cases b with
    | false => exact ⟨'f', ['a', 'l', 's', 'e'], by simp [Value.prettyAt], rfl, by decide⟩
    | true => exact ⟨'t', ['r', 'u', 'e'], by simp [Value.prettyAt], rfl, by decide⟩
  | string _ s =>
    rw [Value.prettyAt]
    exact ⟨'"', _, toList_quoted s, rfl, by decide⟩
  | @array _ xs _ => cases xs with
    | nil => exact ⟨'[', [']'], by simp [Value.prettyAt], rfl, by decide⟩
    | cons x xs => exact ⟨'[', _, toList_prettyAt_array level x xs, rfl, by decide⟩
  | @object _ ms _ => cases ms with
    | nil => exact ⟨'\x7b', ['\x7d'], by simp [Value.prettyAt], rfl, by decide⟩
    | cons m ms => exact ⟨'\x7b', _, toList_prettyAt_object level m ms, rfl, by decide⟩

/-- A value of a depth is read from its text, wherever that stands. -/
def ReadsBack (d : Nat) (v : Value) : Prop :=
  ∀ level bound depth rest, d ≤ depth → (v.prettyAt level).toList.length ≤ bound →
    valueFrom bound depth ((v.prettyAt level).toList ++ rest) = some (v, rest)

section
variable {d depth : Nat} (level : Nat) {item gap : List Char} (hitem : ∀ c ∈ item, isGap c = true)
  (hgap : ∀ c ∈ gap, isGap c = true) (hd : d ≤ depth)
include hitem hgap hd

/-- The items of an array are read up to its closing bracket. -/
theorem itemsFrom_partsText (x : Value) (xs : List Value) (hx : ∀ y ∈ x :: xs, ReadsBack d y)
    (bound : Nat) (read : List Value) (rest : List Char)
    (hb : (partsText item (gap ++ [']'])
      ((x :: xs).map fun v => (v.prettyAt level).toList)).length ≤ bound) :
    itemsFrom bound depth read (partsText item (gap ++ [']'])
      ((x :: xs).map fun v => (v.prettyAt level).toList) ++ rest) =
        some (read.reverse ++ x :: xs, rest) := by
  induction xs generalizing x bound read with
  | nil =>
    simp only [List.map_cons, List.map_nil, partsText, List.length_append, List.length_cons,
      List.length_nil] at hb
    obtain ⟨n, rfl⟩ := Nat.exists_eq_add_of_le' (show 1 ≤ bound by omega)
    have hv := hx x List.mem_cons_self level n depth (gap ++ ']' :: rest) hd (by omega)
    simp only [List.map_cons, List.map_nil, partsText, List.append_assoc, List.cons_append,
      List.nil_append]
    rw [itemsFrom, valueFrom_gap hitem, hv]
    simp only [skipGap_append hgap, skipGap_cons (c := ']') rfl]
    simp
  | cons y ys ih =>
    simp only [List.map_cons, partsText, List.length_append, List.length_cons] at hb
    obtain ⟨n, rfl⟩ := Nat.exists_eq_add_of_le' (show 1 ≤ bound by omega)
    have hv := hx x List.mem_cons_self level n depth
    have hs := ih y (fun z hz => hx z (List.mem_cons_of_mem _ hz)) n (x :: read)
      (by simp only [List.map_cons]; omega)
    simp only [List.map_cons, partsText, List.append_assoc, List.cons_append] at hs ⊢
    rw [itemsFrom, valueFrom_gap hitem, hv _ hd (by omega)]
    simp only [skipGap_cons (c := ',') rfl, hs]
    simp

/-- The members of an object are read up to its closing brace. -/
theorem membersFrom_partsText (m : String × Value) (ms : List (String × Value))
    (hm : ∀ k ∈ m :: ms, ReadsBack d k.2) (bound : Nat) (read : List (String × Value))
    (rest : List Char)
    (hb : (partsText item (gap ++ ['\x7d']) ((m :: ms).map (memberText level))).length ≤ bound) :
    membersFrom bound depth read (partsText item (gap ++ ['\x7d'])
      ((m :: ms).map (memberText level)) ++ rest) = some (read.reverse ++ m :: ms, rest) := by
  induction ms generalizing m bound read with
  | nil =>
    simp only [List.map_cons, List.map_nil, partsText, memberText, List.length_append,
      List.length_cons, List.length_nil] at hb
    obtain ⟨n, rfl⟩ := Nat.exists_eq_add_of_le' (show 1 ≤ bound by omega)
    have hv := hm m List.mem_cons_self level n depth (gap ++ '\x7d' :: rest) hd (by omega)
    simp only [List.map_cons, List.map_nil, partsText, memberText, toList_quoted,
      List.append_assoc, List.cons_append, List.nil_append]
    rw [membersFrom, skipGap_append hitem, skipGap_cons (c := '"') rfl]
    simp only [stringFrom_quoted, skipGap_cons (c := ':') rfl]
    simp only [valueFrom_space, hv, skipGap_append hgap, skipGap_cons (c := '\x7d') rfl]
    simp
  | cons k ks ih =>
    simp only [List.map_cons, partsText, memberText, List.length_append, List.length_cons] at hb
    obtain ⟨n, rfl⟩ := Nat.exists_eq_add_of_le' (show 1 ≤ bound by omega)
    have hv := hm m List.mem_cons_self level n depth
    have hs := ih k (fun z hz => hm z (List.mem_cons_of_mem _ hz)) n (m :: read)
      (by simp only [List.map_cons, memberText]; omega)
    simp only [List.map_cons, partsText, List.append_assoc, List.cons_append] at hs ⊢
    rw [memberText, toList_quoted]
    simp only [List.append_assoc, List.cons_append, List.nil_append]
    rw [membersFrom, skipGap_append hitem, skipGap_cons (c := '"') rfl]
    simp only [stringFrom_quoted, skipGap_cons (c := ':') rfl, valueFrom_space]
    rw [hv _ hd (by omega)]
    simp only [skipGap_cons (c := ',') rfl, hs]
    simp

end

/-- An array that begins with an item is read by reading its items. -/
theorem valueFrom_array {c : Char} {cs rest : List Char} (h : skipGap rest = c :: cs)
    (hc : c ≠ ']') (bound depth : Nat) :
    valueFrom (bound + 1) (depth + 1) ('[' :: rest) =
      (itemsFrom bound depth [] rest).map fun (xs, rest) => (.array xs, rest) := by
  rw [valueFrom, skipGap_cons (c := '[') rfl, ← itemsFrom_skipGap]
  simp only [h]
  split
  · next hs => exact absurd (List.cons.inj hs).1 hc
  · rfl

/-- An object that begins with a member is read by reading its members. -/
theorem valueFrom_object {c : Char} {cs rest : List Char} (h : skipGap rest = c :: cs)
    (hc : c ≠ '\x7d') (bound depth : Nat) :
    valueFrom (bound + 1) (depth + 1) ('\x7b' :: rest) =
      (membersFrom bound depth [] rest).map fun (ms, rest) => (.object ms, rest) := by
  rw [valueFrom, skipGap_cons (c := '\x7b') rfl, ← membersFrom_skipGap]
  simp only [h]
  split
  · next hs => exact absurd (List.cons.inj hs).1 hc
  · rfl

/-- The text of a value is not empty, so the bound on reading it is never used up. -/
theorem Nested.readsBack_of_succ {d : Nat} {v : Value} (hv : Nested d v)
    (h : ∀ level n depth rest, d ≤ depth → (v.prettyAt level).toList.length ≤ n + 1 →
      valueFrom (n + 1) depth ((v.prettyAt level).toList ++ rest) = some (v, rest)) :
    ReadsBack d v := by
  intro level bound depth rest hd hb
  obtain ⟨c, cs, htext, -, -⟩ := hv.head_prettyAt level
  have hpos : 1 ≤ bound := by
    rw [htext, List.length_cons] at hb
    omega
  obtain ⟨n, rfl⟩ := Nat.exists_eq_add_of_le' hpos
  exact h level n depth rest hd hb

/-- A null is read back. -/
theorem readsBack_null (d : Nat) : ReadsBack d .null := by
  refine (Nested.null d).readsBack_of_succ fun level n depth rest _ _ => ?_
  simp [Value.prettyAt, valueFrom, skipGap_cons (c := 'n') rfl]

/-- A truth value is read back. -/
theorem readsBack_bool (d : Nat) (b : Bool) : ReadsBack d (.bool b) := by
  refine (Nested.bool d b).readsBack_of_succ fun level n depth rest _ _ => ?_
  cases b with
  | false => simp [Value.prettyAt, valueFrom, skipGap_cons (c := 'f') rfl]
  | true => simp [Value.prettyAt, valueFrom, skipGap_cons (c := 't') rfl]

/-- A string is read back. -/
theorem readsBack_string (d : Nat) (s : String) : ReadsBack d (.string s) := by
  refine (Nested.string d s).readsBack_of_succ fun level n depth rest _ _ => ?_
  simp only [Value.prettyAt, toList_quoted, List.cons_append, List.append_assoc, List.nil_append]
  rw [valueFrom, skipGap_cons (c := '"') rfl]
  simp only [stringFrom_quoted, Option.map_some]

/-- An array is read back if its items are. -/
theorem readsBack_array {d : Nat} {xs : List Value} (h : ∀ x ∈ xs, Nested d x)
    (hxs : ∀ x ∈ xs, ReadsBack d x) : ReadsBack (d + 1) (.array xs) := by
  refine (Nested.array h).readsBack_of_succ fun level n depth rest hd hb => ?_
  obtain ⟨e, rfl⟩ := Nat.exists_eq_add_of_le' (Nat.le_of_add_left_le hd)
  cases xs with
  | nil =>
    simp [Value.prettyAt, valueFrom, skipGap_cons (c := '[') rfl, skipGap_cons (c := ']') rfl]
  | cons x xs =>
    rw [toList_prettyAt_array] at hb ⊢
    have hitems := itemsFrom_partsText (level + 1) (isGap_breakAt (level + 1))
      (isGap_breakAt level) (Nat.le_of_succ_le_succ hd) x xs hxs n [] rest
      (Nat.le_of_succ_le_succ hb)
    obtain ⟨tail, htail⟩ := partsText_cons (breakAt (level + 1)).toList
      ((breakAt level).toList ++ [']']) (x.prettyAt (level + 1)).toList
      (xs.map fun v => (v.prettyAt (level + 1)).toList)
    obtain ⟨c, cs, hx, hgap, hc⟩ := (h x List.mem_cons_self).head_prettyAt (level + 1)
    have hskip : skipGap (partsText (breakAt (level + 1)).toList ((breakAt level).toList ++ [']'])
        ((x :: xs).map fun v => (v.prettyAt (level + 1)).toList) ++ rest) =
          c :: (cs ++ (tail ++ rest)) := by
      rw [List.map_cons, htail, List.append_assoc, skipGap_append (isGap_breakAt _), hx]
      simp [skipGap_cons hgap]
    rw [List.cons_append, valueFrom_array hskip hc, hitems]
    rfl

/-- An object is read back if the values of its members are. -/
theorem readsBack_object {d : Nat} {ms : List (String × Value)} (h : ∀ m ∈ ms, Nested d m.2)
    (hms : ∀ m ∈ ms, ReadsBack d m.2) : ReadsBack (d + 1) (.object ms) := by
  refine (Nested.object h).readsBack_of_succ fun level n depth rest hd hb => ?_
  obtain ⟨e, rfl⟩ := Nat.exists_eq_add_of_le' (Nat.le_of_add_left_le hd)
  cases ms with
  | nil =>
    simp [Value.prettyAt, valueFrom, skipGap_cons (c := '\x7b') rfl,
      skipGap_cons (c := '\x7d') rfl]
  | cons m ms =>
    rw [toList_prettyAt_object] at hb ⊢
    have hmembers := membersFrom_partsText (level + 1) (isGap_breakAt (level + 1))
      (isGap_breakAt level) (Nat.le_of_succ_le_succ hd) m ms hms n [] rest
      (Nat.le_of_succ_le_succ hb)
    obtain ⟨tail, htail⟩ := partsText_cons (breakAt (level + 1)).toList
      ((breakAt level).toList ++ ['\x7d']) (memberText (level + 1) m)
      (ms.map (memberText (level + 1)))
    have hskip : skipGap (partsText (breakAt (level + 1)).toList
        ((breakAt level).toList ++ ['\x7d']) ((m :: ms).map (memberText (level + 1))) ++ rest) =
          '"' :: (m.1.toList.flatMap escapeChar ++ '"' :: ':' :: ' ' ::
            ((m.2.prettyAt (level + 1)).toList ++ (tail ++ rest))) := by
      rw [List.map_cons, htail, List.append_assoc, skipGap_append (isGap_breakAt _), memberText,
        toList_quoted]
      simp [skipGap_cons (c := '"') rfl]
    rw [List.cons_append, valueFrom_object hskip (by decide), hmembers]
    rfl

/-- A value without numbers is read from its text. The induction follows the nesting, one case for
each kind of value. -/
theorem Nested.readsBack {d : Nat} {v : Value} (h : Nested d v) : ReadsBack d v := by
  induction h with
  | null d => exact readsBack_null d
  | bool d b => exact readsBack_bool d b
  | string d s => exact readsBack_string d s
  | array h ih => exact readsBack_array h ih
  | object h ih => exact readsBack_object h ih

/-- A value without numbers that nests less than 128 deep is what its text is read as. -/
theorem Value.ofText?_pretty {v : Value} (h : Nested 127 v) : Value.ofText? v.pretty = some v := by
  have hv := h.readsBack 0 (2 * v.pretty.toList.length + 2) 127 [] (Nat.le_refl _) (by
    rw [Value.pretty]
    omega)
  rw [List.append_nil, ← Value.pretty] at hv
  simp only [Value.ofText?, hv]
  rfl

end Provision.Json
