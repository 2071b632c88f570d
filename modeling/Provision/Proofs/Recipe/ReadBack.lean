import Provision.Proofs.Json.Fields
import Provision.Proofs.Record

/-!
# Recipe files are read back

A recipe file is read back from the record that is written for it. Each kind of record has a writer
and a reader that agree on the names of its fields (`Json.Agree`), and the records inside a recipe
file are read back first (`Draft.read_written`).
-/

namespace Provision

open Json (Value)

namespace Json

/-- A writer and a reader agree on the names of a record's fields. Only members of these names are
written, and others are not looked at; what was written is read back. -/
structure Agree {α : Type} (names : List String) (write : α → Value)
    (read : Value → Option α) : Prop where
  written (a : α) : ∃ ms, write a = .object ms ∧ (ms.map Prod.fst).Sublist names
  looked {ms ms' : List (String × Value)}
    (h : ∀ n ∈ names, (Value.object ms).member? n = (Value.object ms').member? n) :
    read (.object ms) = read (.object ms')
  back (a : α) : read (write a) = some a

/-- Of an object only the members with the names of the fields are looked at. -/
theorem fields_bind_congr {α : Type} {fs : List Field} {ms ms' : List (String × Value)}
    (h : ∀ n ∈ fs.map Field.name, (Value.object ms).member? n = (Value.object ms').member? n)
    (read : List (Option Value) → Option α) :
    (format.fields fs (.object ms) >>= read) = format.fields fs (.object ms') >>= read := by
  have hfields : (fs.map fun f => (Value.object ms).member? f.name) =
      fs.map fun f => (Value.object ms').member? f.name :=
    List.map_congr_left fun f hf => h f.name (List.mem_map_of_mem hf)
  rw [format_fields_object, format_fields_object, hfields]

/-- A list is read back if its items are. -/
theorem list_map {α : Type} {write : α → Value} {read : Value → Option α}
    (h : ∀ a, read (write a) = some a) (xs : List α) :
    format.list read (.array (xs.map write)) = some xs :=
  Format.list_eq_pure (m := Option) rfl
    (List.forall₂_map_left_iff.2 (List.forall₂_same.2 fun a _ => h a))

/-- A text that may be missing is read back. -/
theorem optional_optionalText (o : Option String) :
    format.optional format.text (some (optionalText o)) = some o := by
  cases o <;> rfl

/-- A table is read back. -/
theorem table_tableValue (t : Table String) :
    format.table format.text (tableValue t) = some t := by
  have hentries : format.entries (tableValue t) =
      some (t.rows.map fun r => (.string r.1, .string r.2)) := by
    simp [format, tableValue, Function.comp_def]
  refine Format.table_eq_pure (m := Option) hentries ?_
  exact List.forall₂_map_left_iff.2 (List.forall₂_same.2 fun r _ => ⟨rfl, rfl⟩)

end Json

/-! ## The records in a recipe file -/

/-- A log watch is read back. -/
theorem LogWatch.read_toJson (w : LogWatch) : LogWatch.read Json.format w.toJson = some w := by
  have hfields : Json.format.fields
      [⟨"name", .required⟩, ⟨"file", .required⟩, ⟨"attributes", .defaulted⟩] w.toJson =
        some [some (.string w.name), some (.string w.file),
          if w.attributes.isEmpty then none else some (Json.tableValue w.attributes)] := by
    unfold toJson
    split <;> simp [Json.format, Value.member?]
  refine LogWatch.read_eq_pure (m := Option) hfields rfl rfl ?_
  split
  · next h => exact congrArg some (Table.ext (List.isEmpty_iff.1 h).symm)
  · exact Json.table_tableValue w.attributes

/-- What is written of a log watch is what is read of one. -/
theorem LogWatch.agree : Json.Agree ["name", "file", "attributes"] LogWatch.toJson
    (LogWatch.read Json.format) where
  written w := by
    refine ⟨_, rfl, ?_⟩
    split <;> simp
  looked h := by
    refine Json.fields_bind_congr ?_ _
    exact h
  back := LogWatch.read_toJson

/-- A target is read back. -/
theorem Target.read_toJson (t : Target) : Target.read Json.format t.toJson = some t := by
  have hfields : Json.format.fields [⟨"os", .optional⟩, ⟨"platform", .optional⟩,
      ⟨"platformVersion", .optional⟩, ⟨"kernelArch", .optional⟩] t.toJson =
        some [some (Json.optionalText t.os), some (Json.optionalText t.platform),
          some (Json.optionalText t.platformVersion), some (Json.optionalText t.kernelArch)] := by
    simp [toJson, Json.format, Value.member?]
  simp only [Target.read, hfields, Json.optional_optionalText, Option.bind_eq_bind,
    Option.bind_some, Option.pure_def]

/-- What is written of a target is what is read of one. -/
theorem Target.agree : Json.Agree ["os", "platform", "platformVersion", "kernelArch"] Target.toJson
    (Target.read Json.format) where
  written _ := ⟨_, rfl, .refl _⟩
  looked h := by
    refine Json.fields_bind_congr ?_ _
    exact h
  back := Target.read_toJson

/-- A step is read back. -/
theorem Step.read_toJson (s : Step) : Step.read Json.format s.toJson = some s := by
  have hfields : Json.format.fields [⟨"name", .optional⟩, ⟨"run", .required⟩] s.toJson =
      some [some (Json.optionalText s.name), some (.string s.run)] := by
    simp [toJson, Json.format, Value.member?]
  have hrun : Json.format.required Json.format.text (some (.string s.run)) = some s.run := rfl
  simp only [Step.read, hfields, Json.optional_optionalText, hrun, Option.bind_eq_bind,
    Option.bind_some, Option.pure_def]

/-- What is written of a step is what is read of one. -/
theorem Step.agree : Json.Agree ["name", "run"] Step.toJson (Step.read Json.format) where
  written _ := ⟨_, rfl, .refl _⟩
  looked h := by
    refine Json.fields_bind_congr ?_ _
    exact h
  back := Step.read_toJson

/-- The section with the commands as a record. -/
def Json.stepsValue (steps : List Step) : Value :=
  .object [("steps", .array (steps.map Step.toJson))]

/-- The steps of a recipe are read back. -/
theorem readSteps_stepsValue (steps : List Step) :
    readSteps Json.format (Json.stepsValue steps) = some steps :=
  Json.list_map Step.read_toJson steps

/-- What is written of the steps of a recipe is what is read of them. -/
theorem readSteps_agree : Json.Agree ["steps"] Json.stepsValue (readSteps Json.format) where
  written _ := ⟨_, rfl, .refl _⟩
  looked h := by
    refine Json.fields_bind_congr ?_ _
    exact h
  back := readSteps_stepsValue

/-- A draft is read back. -/
theorem Draft.ofJson?_written (d : Draft) : ofJson? d.toJson = some d := by
  have hfields : Json.format.fields Draft.fields d.toJson =
      some [some (.string d.name), some (Json.optionalText d.displayName),
        some (Json.optionalText d.description), some (Json.optionalText d.repository),
        some (.array (d.targets.map Target.toJson)),
        some (.array (d.processPatterns.map .string)),
        some (.array (d.logWatches.map LogWatch.toJson)), some (Json.optionalText d.query),
        some (Json.stepsValue d.steps)] := by
    simp [toJson, Draft.fields, Json.format, Value.member?, Json.stepsValue]
  have hname : Json.format.text (.string d.name) = some d.name := rfl
  have htext (s : String) : Json.format.text (.string s) = some s := rfl
  simp only [ofJson?, Draft.read, hfields, orDefault, hname, Json.optional_optionalText,
    Json.list_map Target.read_toJson, Json.list_map LogWatch.read_toJson, Json.list_map htext,
    readSteps_stepsValue, Option.bind_eq_bind, Option.bind_some, Option.pure_def]

/-- What is written of a draft is what is read of one. -/
theorem Draft.agree : Json.Agree ["name", "displayName", "description", "repository",
    "installTargets", "processMatch", "logMatch", "validationNrql", "install"] Draft.toJson
    Draft.ofJson? where
  written _ := ⟨_, rfl, .refl _⟩
  looked h := by
    refine Json.fields_bind_congr ?_ _
    exact h
  back := Draft.ofJson?_written

/-! ## Recipe files -/

/-- Attributes are left out of the record of a pattern of log files just if there are none. -/
theorem LogWatch.attributes_written (w : LogWatch) :
    w.toJson.member? "attributes" = none ↔ w.attributes = Table.empty := by
  have hempty : w.attributes = Table.empty ↔ w.attributes.isEmpty = true :=
    ⟨fun h => h ▸ rfl, fun h => Table.ext (List.isEmpty_iff.1 h)⟩
  rw [hempty, toJson]
  cases w.attributes.isEmpty <;> simp [Value.member?]

/-- A recipe file is read back from its record as it was, whatever its texts, absent or present
optional fields and lists; and a record that is read is written anew as one that is read as the
same recipe file, which writing again leaves as it is. At each level the names of the fields that
are written are those that are read. A pattern of log files is written without its attributes just
if there are none. -/
theorem Draft.read_written :
    (∀ d : Draft, ofJson? d.toJson = some d) ∧
    (∀ v d, ofJson? v = some d →
      ofJson? d.toJson = some d ∧ ∀ e, ofJson? d.toJson = some e → e.toJson = d.toJson) ∧
    Json.Agree ["name", "displayName", "description", "repository", "installTargets",
      "processMatch", "logMatch", "validationNrql", "install"] Draft.toJson Draft.ofJson? ∧
    Json.Agree ["os", "platform", "platformVersion", "kernelArch"] Target.toJson
      (Target.read Json.format) ∧
    Json.Agree ["name", "file", "attributes"] LogWatch.toJson (LogWatch.read Json.format) ∧
    Json.Agree ["name", "run"] Step.toJson (Step.read Json.format) ∧
    Json.Agree ["steps"] Json.stepsValue (readSteps Json.format) ∧
    ∀ w : LogWatch, w.toJson.member? "attributes" = none ↔ w.attributes = Table.empty := by
  refine ⟨ofJson?_written, fun _ d _ => ⟨d.ofJson?_written, fun e he => ?_⟩, Draft.agree,
    Target.agree, LogWatch.agree, Step.agree, readSteps_agree, LogWatch.attributes_written⟩
  obtain rfl : d = e := Option.some.inj (d.ofJson?_written.symm.trans he)
  rfl

end Provision
