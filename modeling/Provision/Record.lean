import Provision.Table

/-!
# Records

Recipes and profiles are records, written in YAML or in JSON. Both notations are read by the same
description of a record: its fields in order, and for each field whether it has to be there. A
`Format` says how a notation shows the parts of a value; reading happens in a monad of its own,
because following YAML aliases is limited.
-/

namespace Provision

/-- Whether a field has to be there. An optional field may be left out or null; a defaulted field
may be left out only, but that even where fields go by position. -/
inductive Presence where
  | required | optional | defaulted
  deriving DecidableEq

/-- A field of a record. -/
structure Field where
  name : String
  presence : Presence

/-- How a notation shows the parts of a value. Each part may be refused. -/
structure Format (m : Type → Type) (V : Type) where
  /-- Refuses a value. -/
  refuse : {α : Type} → m α
  /-- The text a value writes. -/
  text : V → m String
  /-- The unsigned 64-bit number a value writes. -/
  natural : V → m Nat
  /-- The name among the given ones that a value chooses. -/
  choice : List String → V → m String
  /-- The value, unless it says that there is none. -/
  present : V → m (Option V)
  /-- The items of a list. -/
  items : V → m (List V)
  /-- The entries of a map. -/
  entries : V → m (List (V × V))
  /-- The values of a record's fields, in the order of the fields. -/
  fields : List Field → V → m (List (Option V))

/-- The value of a field that has a default. -/
def orDefault {m : Type → Type} [Monad m] {V α : Type} (value : α) (read : V → m α) :
    Option V → m α
  | none => pure value
  | some v => read v

namespace Format

variable {m : Type → Type} [Monad m] {V α : Type} (F : Format m V)

/-- The value of a required field. -/
def required (read : V → m α) : Option V → m α
  | some v => read v
  | none => F.refuse

/-- The value of an optional field. -/
def optional (read : V → m α) : Option V → m (Option α)
  | none => pure none
  | some v => do
    match ← F.present v with
    | none => pure none
    | some v => some <$> read v

/-- A list of values. -/
def list (read : V → m α) (v : V) : m (List α) := do
  (← F.items v).mapM read

/-- The rows of a table. -/
def rows (read : V → m α) : List (V × V) → m (List (String × α))
  | [] => pure []
  | (key, value) :: rest => do
    let name ← F.text key
    let a ← read value
    let more ← rows read rest
    pure ((name, a) :: more)

/-- A table of values; of two entries with one name the later wins. -/
def table (read : V → m α) (v : V) : m (Table α) := do
  let rs ← F.rows read (← F.entries v)
  pure (Table.ofList rs)

end Format

end Provision
