/-!
# Tables

A table maps names to values and keeps its rows in the order of the names, each name once. The
order is that of the characters' code points, which is also the order of their UTF-8 bytes.
Tables with the same rows are equal, so that a table can be compared after writing and reading.
-/

namespace Provision

/-- Rows in strictly rising order of their names. -/
structure Table (α : Type) where
  rows : List (String × α)
  rising : rows.Pairwise (fun r s => r.1 < s.1)

namespace Table

variable {α : Type}

/-- Puts a row where its name belongs; a row of that name gives way. -/
def insertRow (name : String) (value : α) : List (String × α) → List (String × α)
  | [] => [(name, value)]
  | r :: rest =>
    if name < r.1 then (name, value) :: r :: rest
    else if name = r.1 then (name, value) :: rest
    else r :: insertRow name value rest

/-- The rows of a table with a value are that of the value and others that were there. -/
theorem mem_insertRow {name : String} {value : α} {rows : List (String × α)} {r : String × α}
    (h : r ∈ insertRow name value rows) : r = (name, value) ∨ r ∈ rows := by
  induction rows with
  | nil => simpa [insertRow] using h
  | cons s rest ih =>
    unfold insertRow at h
    split at h
    · simpa using h
    · split at h
      · rcases List.mem_cons.1 h with h | h
        · exact .inl h
        · exact .inr (List.mem_cons_of_mem _ h)
      · rcases List.mem_cons.1 h with h | h
        · exact .inr (h ▸ List.mem_cons_self)
        · exact (ih h).imp id (List.mem_cons_of_mem _)

/-- A value is put where its name belongs. -/
theorem insertRow_rising {name : String} {value : α} {rows : List (String × α)}
    (h : rows.Pairwise (fun r s => r.1 < s.1)) :
    (insertRow name value rows).Pairwise (fun r s => r.1 < s.1) := by
  induction rows with
  | nil => simp [insertRow]
  | cons r rest ih =>
    obtain ⟨hr, hrest⟩ := List.pairwise_cons.1 h
    unfold insertRow
    split
    · next hlt =>
      refine List.pairwise_cons.2 ⟨fun s hs => ?_, h⟩
      rcases List.mem_cons.1 hs with rfl | hs
      · exact hlt
      · exact String.lt_trans hlt (hr s hs)
    · split
      · next heq =>
        exact List.pairwise_cons.2 ⟨fun s hs => by simpa [heq] using hr s hs, hrest⟩
      · next hlt hne =>
        refine List.pairwise_cons.2 ⟨fun s hs => ?_, ih hrest⟩
        rcases mem_insertRow hs with rfl | hs
        · exact String.not_le.1 fun hle => hne (String.le_antisymm hle (String.not_lt.1 hlt))
        · exact hr s hs

/-- The table with no rows. -/
def empty : Table α := ⟨[], List.Pairwise.nil⟩

instance : Inhabited (Table α) := ⟨empty⟩

/-- The table with the value under the name, instead of any earlier value. -/
def insert (t : Table α) (name : String) (value : α) : Table α :=
  ⟨insertRow name value t.rows, insertRow_rising t.rising⟩

/-- The table of a list of rows; of two rows with one name the later wins. -/
def ofList (rows : List (String × α)) : Table α :=
  rows.foldl (fun t r => t.insert r.1 r.2) empty

/-- The value under a name. -/
def get? (t : Table α) (name : String) : Option α :=
  (t.rows.find? (fun r => r.1 = name)).map (·.2)

/-- Whether the table has no rows. -/
def isEmpty (t : Table α) : Bool := t.rows.isEmpty

/-- Tables with the same rows are the same. -/
@[ext] theorem ext {t u : Table α} (h : t.rows = u.rows) : t = u := by
  cases t; cases u; simpa using h

instance [DecidableEq α] : DecidableEq (Table α) := fun t u =>
  decidable_of_iff (t.rows = u.rows) ⟨ext, fun h => h ▸ rfl⟩

end Table

end Provision
