import Mathlib.Data.List.Forall2
import Provision.Json.Record

/-!
# Parts of JSON records

What the parts of a JSON record are read as: lists are read item by item (`format_list`), an
optional value is absent or null or read (`format_optional`), and the fields of an object are taken
by their names. `Value.at?` follows member names into a value.
-/

namespace Provision.Json

variable {α : Type} {read : Value → Option α}

/-- A list of values is read if each of them is. -/
theorem mapM_eq_some {vs : List Value} {xs : List α} :
    vs.mapM read = some xs ↔ List.Forall₂ (fun v x => read v = some x) vs xs := by
  induction vs generalizing xs with
  | nil => simp [eq_comm]
  | cons v vs ih =>
    rw [List.mapM_cons, List.forall₂_cons_left_iff]
    constructor
    · intro h
      obtain ⟨x, hx, h⟩ := Option.bind_eq_some_iff.1 h
      obtain ⟨rest, hrest, h⟩ := Option.bind_eq_some_iff.1 h
      cases h
      exact ⟨x, rest, hx, ih.1 hrest, rfl⟩
    · rintro ⟨x, rest, hx, hrest, rfl⟩
      rw [hx, ih.2 hrest]
      rfl

/-- A list is read from an array whose items are read one by one. -/
theorem format_list {v : Value} {xs : List α} : format.list read v = some xs ↔
    ∃ vs, v = .array vs ∧ List.Forall₂ (fun v x => read v = some x) vs xs := by
  cases v with
  | array vs =>
    have hlist : format.list read (.array vs) = vs.mapM read := rfl
    rw [hlist, mapM_eq_some]
    simp
  | _ => simp [Format.list, format, Value.items?]

/-- A required field is read from the value that is there. -/
theorem format_required (v : Option Value) : format.required read v = v.bind read := by
  cases v <;> rfl

/-- A text is read from a string, and is the same. -/
theorem text?_eq_some {v : Value} {s : String} : v.text? = some s ↔ v = .string s := by
  cases v <;> simp [Value.text?]

/-- A value that is there, which null is not. -/
def notNull : Value → Option Value
  | .null => none
  | v => some v

/-- An optional value that is not there or null is absent, and any other is read. -/
theorem format_optional (v : Option Value) :
    format.optional read v = match v.bind notNull with
      | none => some none
      | some w => (read w).map some := by
  cases v with
  | none => rfl
  | some v => cases v <;> rfl

/-- An optional value is there if something other than null is. -/
theorem format_optional_some (v : Option Value) :
    format.optional some v = some (v.bind notNull) := by
  rw [format_optional]
  cases v.bind notNull <;> rfl

/-- The fields of an object are its members of their names. -/
theorem format_fields_object (fs : List Field) (ms : List (String × Value)) :
    format.fields fs (.object ms) = some (fs.map fun f => (Value.object ms).member? f.name) :=
  rfl

/-- The value that member names lead to. -/
def Value.at? : List String → Value → Option Value
  | [], v => some v
  | name :: names, v => (v.member? name).bind (at? names)

end Provision.Json
