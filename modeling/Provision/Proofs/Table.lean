import Mathlib.Data.List.Nodup
import Provision.Table

/-!
# Rows of a table

Each name has at most one row in a table, which is what looking up the name gives
(`Table.get?_eq_some`). A table is made again from its rows (`Table.ofList_rows`), because a row
whose name comes after all others is put at the end.
-/

namespace Provision.Table

variable {α : Type} {t : Table α} {name : String} {value : α}

/-- No name is in a table twice. -/
theorem nodup_names (t : Table α) : (t.rows.map Prod.fst).Nodup := by
  rw [List.Nodup, List.pairwise_map]
  refine t.rising.imp ?_
  rintro r s (h : r.1 < s.1) (heq : r.1 = s.1)
  exact String.lt_irrefl s.1 (heq ▸ h)

/-- A name has one value. -/
theorem value_unique {a b : α} (ha : (name, a) ∈ t.rows) (hb : (name, b) ∈ t.rows) : a = b :=
  congrArg Prod.snd (List.inj_on_of_nodup_map t.nodup_names ha hb rfl)

/-- A value is looked up under its name. -/
theorem get?_eq_some : t.get? name = some value ↔ (name, value) ∈ t.rows := by
  rw [get?, Option.map_eq_some_iff]
  constructor
  · rintro ⟨⟨n, a⟩, hfind, rfl⟩
    obtain rfl : n = name := by simpa using List.find?_some hfind
    exact List.mem_of_find?_eq_some hfind
  · intro hmem
    have hsome : (t.rows.find? fun r => r.1 = name).isSome = true :=
      List.find?_isSome.2 ⟨(name, value), hmem, by simp⟩
    obtain ⟨⟨n, a⟩, hfind⟩ := Option.isSome_iff_exists.1 hsome
    obtain rfl : n = name := by simpa using List.find?_some hfind
    exact ⟨(n, a), hfind, value_unique (List.mem_of_find?_eq_some hfind) hmem⟩

/-- Something is looked up under the names of the rows. -/
theorem get?_isSome : (t.get? name).isSome = true ↔ name ∈ t.rows.map Prod.fst := by
  simp only [Option.isSome_iff_exists, get?_eq_some, List.mem_map, Prod.exists, exists_eq_right,
    exists_and_right]

/-- A row whose name comes last is put at the end. -/
theorem insertRow_of_forall_lt {rows : List (String × α)} (h : ∀ r ∈ rows, r.1 < name) :
    insertRow name value rows = rows ++ [(name, value)] := by
  induction rows with
  | nil => rfl
  | cons r rest ih =>
    obtain ⟨hr, hrest⟩ := List.forall_mem_cons.1 h
    have hlt : ¬ name < r.1 := fun hlt => String.lt_irrefl _ (String.lt_trans hlt hr)
    have hne : name ≠ r.1 := fun heq => String.lt_irrefl r.1 (heq ▸ hr)
    rw [insertRow, if_neg hlt, if_neg hne, ih hrest, List.cons_append]

/-- Rows in rising order are put one after the other. -/
theorem rows_foldl_insert {before after : List (String × α)}
    (hbefore : before.Pairwise fun r s => r.1 < s.1)
    (h : (before ++ after).Pairwise fun r s => r.1 < s.1) :
    (after.foldl (fun (t : Table α) r => t.insert r.1 r.2) ⟨before, hbefore⟩).rows =
      before ++ after := by
  induction after generalizing before with
  | nil => rw [List.foldl_nil, List.append_nil]
  | cons r after ih =>
    rw [List.append_cons] at h ⊢
    have hlt := (List.pairwise_append.1 (List.pairwise_append.1 h).1).2.2
    have hinsert : (⟨before, hbefore⟩ : Table α).insert r.1 r.2 =
        ⟨before ++ [r], (List.pairwise_append.1 h).1⟩ :=
      Table.ext (insertRow_of_forall_lt fun s hs => hlt s hs r (.head _))
    rw [List.foldl_cons, hinsert, ih _ h]

/-- A table is made again from its rows. -/
theorem ofList_rows (t : Table α) : ofList t.rows = t :=
  Table.ext (rows_foldl_insert List.Pairwise.nil t.rising)

end Provision.Table
