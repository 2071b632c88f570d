import Provision.Recipe.Record

/-!
# Profiles

A profile is an account, the key for it and the region it lives in. A store holds profiles by name
and may name one as the default. `ProfileStore.resolve` picks the profile of a run: the one that
was asked for, else the default, else the only one there is.
-/

namespace Provision

/-- Where an account lives. -/
inductive Region where
  | us | eu
  deriving Repr, DecidableEq, Inhabited

namespace Region

/-- The name of a region. -/
def name : Region → String
  | us => "us"
  | eu => "eu"

/-- The region of a name. -/
def ofName? : String → Option Region
  | "us" => some us
  | "eu" => some eu
  | _ => none

/-- Where the queries of a region are asked. -/
def endpoint : Region → String
  | us => "https://api.newrelic.com/graphql"
  | eu => "https://api.eu.newrelic.com/graphql"

end Region

/-- An account, its key and its region. -/
structure Profile where
  accountId : Nat
  apiKey : String
  region : Region
  deriving Repr, DecidableEq, Inhabited

/-- The profile of a run that has none. -/
def Profile.none : Profile := ⟨0, "", .us⟩

/-- The profiles that are configured. -/
structure ProfileStore where
  default : Option String
  profiles : Table Profile
  deriving DecidableEq, Inhabited

section Reading

variable {m : Type → Type} [Monad m] {V : Type} (F : Format m V)

/-- Reads a region. -/
def Region.read (v : V) : m Region := do
  match Region.ofName? (← F.choice ["us", "eu"] v) with
  | some r => pure r
  | Option.none => F.refuse

/-- Reads a profile. -/
def Profile.read (v : V) : m Profile := do
  match ← F.fields
      [⟨"accountId", .required⟩, ⟨"apiKey", .defaulted⟩, ⟨"region", .defaulted⟩] v with
  | [account, key, region] =>
    let account ← F.required F.natural account
    let key ← orDefault "" F.text key
    let region ← orDefault Region.us (Region.read F) region
    pure ⟨account, key, region⟩
  | _ => F.refuse

/-- Reads a store. -/
def ProfileStore.read (v : V) : m ProfileStore := do
  match ← F.fields [⟨"default", .optional⟩, ⟨"profiles", .defaulted⟩] v with
  | [default, profiles] =>
    let default ← F.optional F.text default
    let profiles ← orDefault Table.empty (F.table (Profile.read F)) profiles
    pure ⟨default, profiles⟩
  | _ => F.refuse

end Reading

/-- Reads a profile from JSON. -/
def Profile.ofJson? (v : Json.Value) : Option Profile := Profile.read Json.format v

namespace ProfileStore

/-- The store without profiles. -/
def empty : ProfileStore := ⟨Option.none, Table.empty⟩

/-- Reads a store from YAML; `source` is where the text comes from. -/
def ofYaml (source text : String) : Except Failure ProfileStore :=
  (Yaml.read? ProfileStore.read text).mapError (.malformed source)

/-- A profile that has to be there; `what` says who names it. -/
def named (s : ProfileStore) (what name : String) : Except Failure (Option (String × Profile)) :=
  match s.profiles.get? name with
  | some p => .ok (some (name, p))
  | Option.none => .error (.profile (what ++ " '" ++ name ++ "' is not configured"))

/-- The profile of a run, with its name: the requested one, else the default, else the only one. A
profile that is requested or the default has to be there. -/
def resolve (s : ProfileStore) (requested : Option String) :
    Except Failure (Option (String × Profile)) :=
  match requested, s.default with
  | some name, _ => s.named "profile" name
  | Option.none, some name => s.named "default profile" name
  | Option.none, Option.none =>
    match s.profiles.rows with
    | [row] => .ok (some row)
    | _ => .ok Option.none

end ProfileStore

end Provision
