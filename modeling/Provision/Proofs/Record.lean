import Mathlib.Data.List.Forall2
import Provision.Proofs.Table
import Provision.Recipe.Record

/-!
# Parts of records

What a record is read as, once it is known what its parts are read as. These lemmas hold in every
notation. A list is read item by item (`Format.list_eq_pure`) and a table row by row
(`Format.table_eq_pure`).
-/

namespace Provision

variable {m : Type → Type} [Monad m] [LawfulMonad m] {V α : Type} {F : Format m V}

namespace Format

variable {read : V → m α} {v : V}

/-- Values are read one after the other. -/
theorem mapM_eq_pure {vs : List V} {xs : List α}
    (h : List.Forall₂ (fun v x => read v = pure x) vs xs) : vs.mapM read = pure xs := by
  induction h with
  | nil => rfl
  | cons hx _ ih => rw [List.mapM_cons, hx, pure_bind, ih, pure_bind]

/-- A list is read from its items. -/
theorem list_eq_pure {vs : List V} {xs : List α} (hitems : F.items v = pure vs)
    (h : List.Forall₂ (fun v x => read v = pure x) vs xs) : F.list read v = pure xs := by
  rw [list, hitems, pure_bind, mapM_eq_pure h]

/-- The rows of a table are read from its entries, each a name and a value. -/
theorem rows_eq_pure {entries : List (V × V)} {rs : List (String × α)}
    (h : List.Forall₂ (fun e r => F.text e.1 = pure r.1 ∧ read e.2 = pure r.2) entries rs) :
    F.rows read entries = pure rs := by
  induction h with
  | nil => rfl
  | cons hr _ ih => rw [rows, hr.1, pure_bind, hr.2, pure_bind, ih, pure_bind]

/-- A table is read from its entries. -/
theorem table_eq_pure {entries : List (V × V)} {t : Table α} (hentries : F.entries v = pure entries)
    (h : List.Forall₂ (fun e r => F.text e.1 = pure r.1 ∧ read e.2 = pure r.2) entries t.rows) :
    F.table read v = pure t := by
  rw [table, hentries, pure_bind, rows_eq_pure h, pure_bind, t.ofList_rows]

end Format

/-- A log watch is read from its fields. -/
theorem LogWatch.read_eq_pure {v name file : V} {attributes : Option V} {w : LogWatch}
    (hfields : F.fields [⟨"name", .required⟩, ⟨"file", .required⟩, ⟨"attributes", .defaulted⟩] v =
      pure [some name, some file, attributes])
    (hname : F.text name = pure w.name) (hfile : F.text file = pure w.file)
    (hattributes : orDefault Table.empty (F.table F.text) attributes = pure w.attributes) :
    LogWatch.read F v = pure w := by
  simp only [LogWatch.read, hfields, Format.required, hname, hfile, hattributes, pure_bind]

end Provision
