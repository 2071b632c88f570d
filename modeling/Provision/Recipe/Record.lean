import Provision.Recipe.Basic
import Provision.Json.Record
import Provision.Yaml.Record
import Provision.Failure

/-!
# Recipes as records

The fields of a recipe file, read from YAML or JSON and written to JSON. Writing keeps absent
optional fields as null and leaves out empty attributes; what was written is read back as it was.
-/

namespace Provision

open Json (Value)

section Reading

variable {m : Type → Type} [Monad m] {V : Type} (F : Format m V)

/-- Reads a pattern of log files. -/
def LogWatch.read (v : V) : m LogWatch := do
  match ← F.fields [⟨"name", .required⟩, ⟨"file", .required⟩, ⟨"attributes", .defaulted⟩] v with
  | [name, file, attributes] =>
    let name ← F.required F.text name
    let file ← F.required F.text file
    let attributes ← orDefault Table.empty (F.table F.text) attributes
    pure ⟨name, file, attributes⟩
  | _ => F.refuse

/-- Reads the log files that are watched. -/
def WatchList.read (v : V) : m WatchList := do
  match ← F.fields [⟨"logs", .required⟩] v with
  | [logs] => do
    let logs ← F.required (F.list (LogWatch.read F)) logs
    pure ⟨logs⟩
  | _ => F.refuse

/-- Reads a kind of host. -/
def Target.read (v : V) : m Target := do
  match ← F.fields [⟨"os", .optional⟩, ⟨"platform", .optional⟩, ⟨"platformVersion", .optional⟩,
      ⟨"kernelArch", .optional⟩] v with
  | [os, platform, version, arch] =>
    let os ← F.optional F.text os
    let platform ← F.optional F.text platform
    let version ← F.optional F.text version
    let arch ← F.optional F.text arch
    pure ⟨os, platform, version, arch⟩
  | _ => F.refuse

/-- Reads a command. -/
def Step.read (v : V) : m Step := do
  match ← F.fields [⟨"name", .optional⟩, ⟨"run", .required⟩] v with
  | [name, run] =>
    let name ← F.optional F.text name
    let run ← F.required F.text run
    pure ⟨name, run⟩
  | _ => F.refuse

/-- Reads the section with the commands. -/
def readSteps (v : V) : m (List Step) := do
  match ← F.fields [⟨"steps", .defaulted⟩] v with
  | [steps] => orDefault [] (F.list (Step.read F)) steps
  | _ => F.refuse

/-- The fields of a recipe file. -/
def Draft.fields : List Field :=
  [⟨"name", .defaulted⟩, ⟨"displayName", .optional⟩, ⟨"description", .optional⟩,
    ⟨"repository", .optional⟩, ⟨"installTargets", .defaulted⟩, ⟨"processMatch", .defaulted⟩,
    ⟨"logMatch", .defaulted⟩, ⟨"validationNrql", .defaulted⟩, ⟨"install", .defaulted⟩]

/-- Reads a recipe file. -/
def Draft.read (v : V) : m Draft := do
  match ← F.fields Draft.fields v with
  | [name, displayName, description, repository, targets, patterns, watches, query, steps] =>
    let name ← orDefault "" F.text name
    let displayName ← F.optional F.text displayName
    let description ← F.optional F.text description
    let repository ← F.optional F.text repository
    let targets ← orDefault [] (F.list (Target.read F)) targets
    let patterns ← orDefault [] (F.list F.text) patterns
    let watches ← orDefault [] (F.list (LogWatch.read F)) watches
    let query ← F.optional F.text query
    let steps ← orDefault [] (readSteps F) steps
    pure ⟨name, displayName, description, repository, targets, patterns, watches, query, steps⟩
  | _ => F.refuse

end Reading

/-! ## Writing -/

/-- An optional text. -/
def Json.optionalText : Option String → Value
  | some s => .string s
  | none => .null

/-- A table of texts. -/
def Json.tableValue (t : Table String) : Value :=
  .object (t.rows.map fun r => (r.1, .string r.2))

/-- A pattern of log files as a record. -/
def LogWatch.toJson (w : LogWatch) : Value :=
  .object ([("name", .string w.name), ("file", .string w.file)] ++
    if w.attributes.isEmpty then [] else [("attributes", Json.tableValue w.attributes)])

/-- The log files that are watched as a record. -/
def WatchList.toJson (w : WatchList) : Value :=
  .object [("logs", .array (w.logs.map LogWatch.toJson))]

/-- A kind of host as a record. -/
def Target.toJson (t : Target) : Value :=
  .object [("os", Json.optionalText t.os), ("platform", Json.optionalText t.platform),
    ("platformVersion", Json.optionalText t.platformVersion),
    ("kernelArch", Json.optionalText t.kernelArch)]

/-- A command as a record. -/
def Step.toJson (s : Step) : Value :=
  .object [("name", Json.optionalText s.name), ("run", .string s.run)]

/-- A recipe file as a record. -/
def Draft.toJson (d : Draft) : Value :=
  .object [("name", .string d.name), ("displayName", Json.optionalText d.displayName),
    ("description", Json.optionalText d.description),
    ("repository", Json.optionalText d.repository),
    ("installTargets", .array (d.targets.map Target.toJson)),
    ("processMatch", .array (d.processPatterns.map .string)),
    ("logMatch", .array (d.logWatches.map LogWatch.toJson)),
    ("validationNrql", Json.optionalText d.query),
    ("install", .object [("steps", .array (d.steps.map Step.toJson))])]

/-! ## Reading from text -/

/-- What is said of a text or a value that is no record of the expected form. -/
def notThisRecord : String := "the record does not have the expected form"

/-- Reads a recipe file from JSON. -/
def Draft.ofJson? (v : Value) : Option Draft := Draft.read Json.format v

/-- Reads a recipe file from YAML; `source` is where the text comes from. -/
def Draft.ofYaml (source text : String) : Except Failure Draft :=
  (Yaml.read? Draft.read text).mapError (.malformed source)

/-- Where a text comes from that is in no file. -/
def unknownSource : String := "unknown"

end Provision
