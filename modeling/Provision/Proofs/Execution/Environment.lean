import Provision.Execution.Environment
import Provision.Proofs.Record
import Provision.Proofs.Yaml.ReadBack

/-!
# What the commands of a recipe are told

The log files to watch are read back from the YAML text in which the commands get them
(`WatchList.read_yaml`), whatever texts stand in them. So the commands see the log files that the
operator agreed to, and see them only if the operator was asked (`Recipe.environment_told`).
-/

namespace Provision

open Yaml (Tree textNode)

section Reading

variable (d : Yaml.Document)

/-- A table is read back from its document. -/
theorem Table.read_toTree (t : Table String) :
    (Yaml.format d).table (Yaml.format d).text t.toTree.node = pure t := by
  refine Format.table_eq_pure (Yaml.format_entries d _) ?_
  rw [List.map_map]
  exact List.forall₂_map_left_iff.2 (List.forall₂_same.2 fun r _ => ⟨rfl, rfl⟩)

/-- A log watch is read back from its document. -/
theorem LogWatch.read_toTree (w : LogWatch) :
    LogWatch.read (Yaml.format d) w.toTree.node = pure w := by
  have hfields : (Yaml.format d).fields
      [⟨"name", .required⟩, ⟨"file", .required⟩, ⟨"attributes", .defaulted⟩] w.toTree.node =
        pure [some (textNode w.name), some (textNode w.file),
          if w.attributes.isEmpty then none else some w.attributes.toTree.node] := by
    rw [toTree, Yaml.format_fields]
    split <;> rfl
  refine LogWatch.read_eq_pure hfields rfl rfl ?_
  split
  · next h => exact congrArg pure (Table.ext (List.isEmpty_iff.1 h).symm)
  · exact Table.read_toTree d w.attributes

/-- A list of log watches is read back from its document. -/
theorem WatchList.read_toTree (w : WatchList) :
    WatchList.read (Yaml.format d) w.toTree.node = pure w := by
  have hfields : (Yaml.format d).fields [⟨"logs", .required⟩] w.toTree.node =
      pure [some (Tree.list (w.logs.map LogWatch.toTree)).node] := by
    rw [toTree, Yaml.format_fields]
    rfl
  have hlogs : (Yaml.format d).list (LogWatch.read (Yaml.format d))
      (Tree.list (w.logs.map LogWatch.toTree)).node = pure w.logs := by
    refine Format.list_eq_pure (Yaml.format_items d _) ?_
    rw [List.map_map]
    exact List.forall₂_map_left_iff.2 (List.forall₂_same.2 fun a _ => LogWatch.read_toTree d a)
  simp only [WatchList.read, hfields, Format.required, hlogs, pure_bind]

end Reading

/-- The log files to watch are read back from their YAML text. -/
theorem WatchList.read_yaml (w : WatchList) : Yaml.read? WatchList.read w.yaml = .ok w := by
  have hdocument : Yaml.Document.ofText w.yaml =
      .ok ⟨some w.toTree.node, w.toTree.node.anchored⟩ := Yaml.Document.ofText_written w.toTree
  have hread := congrFun (WatchList.read_toTree ⟨some w.toTree.node, w.toTree.node.anchored⟩ w) 0
  simp only [Yaml.read?, hdocument, bind, Except.bind, Option.getD_some, StateT.run, hread]
  rfl

namespace Recipe

variable (r : Recipe) (p : Profile) (h : Host)

/-- The names of the variables that the commands always see. -/
def fixedNames : List String :=
  ["INSTRUMENTOR_RECIPE", "INSTRUMENTOR_HOSTNAME", "INSTRUMENTOR_OS", "INSTRUMENTOR_PLATFORM",
    "INSTRUMENTOR_PLATFORM_VERSION", "INSTRUMENTOR_KERNEL_ARCH", "INSTRUMENTOR_ACCOUNT_ID",
    "INSTRUMENTOR_API_KEY", "INSTRUMENTOR_REGION"]

/-- The variables that the commands see whether or not the operator was asked. -/
def fixedVariables : List (String × String) := ({ r with accepted := none }).environment p h

/-- The fixed variables have the fixed names. -/
theorem map_fst_fixedVariables : (r.fixedVariables p h).map Prod.fst = fixedNames := rfl

/-- The environment of a recipe has the fixed variables, and the one for log files if there are
some. -/
theorem environment_eq : r.environment p h =
    r.fixedVariables p h ++ (r.accepted.map fun w => (logFilesVariable, w.yaml)).toList := rfl

/-- The variable for log files is none of the fixed ones. -/
theorem logFilesVariable_not_mem {value : String} :
    (logFilesVariable, value) ∉ r.fixedVariables p h := by
  intro hmem
  have hname : logFilesVariable ∈ fixedNames := List.mem_map_of_mem (f := Prod.fst) hmem
  exact absurd hname (by decide)

/-- The variable for log files is there just if log files were accepted, and tells of these. -/
theorem logFiles_mem {value : String} : (logFilesVariable, value) ∈ r.environment p h ↔
    ∃ w, r.accepted = some w ∧ value = w.yaml := by
  rw [environment_eq, List.mem_append, or_iff_right (r.logFilesVariable_not_mem p h),
    Option.mem_toList, Option.map_eq_some_iff]
  simp [eq_comm]

/-- The variables that the commands of a recipe see have different names, and those with the
log files to watch are among them just if the operator was asked; then they are read as the
log files that the operator agreed to. All other variables are the same whatever these are. -/
theorem environment_told :
    ((r.environment p h).map Prod.fst).Nodup ∧
    (logFilesVariable ∈ (r.environment p h).map Prod.fst ↔ r.accepted.isSome) ∧
    (∀ value, (logFilesVariable, value) ∈ r.environment p h →
      ∃ w, r.accepted = some w ∧ Yaml.read? WatchList.read value = .ok w) ∧
    ∀ accepted, (({ r with accepted := accepted }).environment p h).filter
        (fun v => v.1 ≠ logFilesVariable) =
      (r.environment p h).filter fun v => v.1 ≠ logFilesVariable := by
  have hnames : (r.environment p h).map Prod.fst =
      fixedNames ++ if r.accepted.isSome then [logFilesVariable] else [] := by
    rw [environment_eq, List.map_append, map_fst_fixedVariables]
    cases r.accepted <;> rfl
  refine ⟨?_, ?_, fun value hmem => ?_, fun accepted => ?_⟩
  · rw [hnames]
    cases r.accepted.isSome <;> decide
  · rw [hnames]
    cases r.accepted.isSome <;> decide
  · obtain ⟨w, hw, rfl⟩ := (r.logFiles_mem p h).1 hmem
    exact ⟨w, hw, w.read_yaml⟩
  · have hfilter (o : Option WatchList) :
        (o.map fun w => (logFilesVariable, w.yaml)).toList.filter
          (fun v => v.1 ≠ logFilesVariable) = [] := by
      cases o <;> simp
    rw [environment_eq, environment_eq, List.filter_append, List.filter_append, hfilter, hfilter]
    rfl

end Recipe

end Provision
