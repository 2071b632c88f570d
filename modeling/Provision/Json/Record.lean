import Provision.Json.Value
import Provision.Record

/-!
# Records in JSON

A record is an object, or an array of the values of its fields in order. An array may end early
where the fields left have a default, and holds nothing more. Values keep their kinds: a number is
no text. A choice is the name itself, or an object with the name as its only member and null as
the value.
-/

namespace Provision.Json

/-- The values of fields by position. -/
def positional : List Field → List Value → Option (List (Option Value))
  | [], [] => some []
  | [], _ :: _ => none
  | _ :: fs, v :: vs => (positional fs vs).map (some v :: ·)
  | f :: fs, [] => if f.presence = .defaulted then (positional fs []).map (none :: ·) else none

/-- How JSON shows the parts of a value. -/
def format : Format Option Value where
  refuse := none
  text := Value.text?
  natural
    | .number n => n.natural?
    | _ => none
  choice names
    | .string s => if names.contains s then some s else none
    | .object [(s, .null)] => if names.contains s then some s else none
    | _ => none
  present
    | .null => some none
    | v => some (some v)
  items := Value.items?
  entries
    | .object members => some (members.map fun m => (.string m.1, m.2))
    | _ => none
  fields fs
    | .object members => some (fs.map fun f => (Value.object members).member? f.name)
    | .array items => positional fs items
    | _ => none

end Provision.Json
