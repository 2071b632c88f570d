import Provision.Proofs.Files.ReadBack
import Provision.Proofs.Json.ReadBack
import Provision.Proofs.Status.Latest
import Provision.Proofs.Text.Utf8

/-!
# Status files keep up with their lists

A status list is read back from the document that is written for it. Its record is read as the list
(`StatusList.ofJson?_toJson`), the text of the record as the record, the bytes of the text as the
text, and the file as those bytes; so after a write that goes well the file holds the list
(`StatusFile.holds_of_write_ok`). Reports to a status file are taken one after the other, each on
some machine and with a disk that may be at fault (`StatusFile.Turn`). In memory every one of them
counts (`StatusFile.afterTurns_eq`), and so no update is lost (`StatusFile.no_lost_update`).
-/

namespace Provision

open Json (Value Nested)

/-! ## Records of status lists -/

/-- A state is read back from its name. -/
theorem RecipeState.ofName?_name (s : RecipeState) : ofName? s.name = some s := by
  cases s <;> rfl

/-- The name of a state is one of the three that are read. -/
theorem RecipeState.choice_name (s : RecipeState) :
    Json.format.choice ["available", "installed", "failed"] (.string s.name) = some s.name := by
  cases s <;> rfl

/-- The fields of the record of an entry; what is absent is no field. -/
theorem RecipeStatus.fields_toJson (s : RecipeStatus) :
    Json.format.fields [⟨"name", .required⟩, ⟨"displayName", .required⟩, ⟨"status", .required⟩,
      ⟨"error", .defaulted⟩, ⟨"entityGuid", .defaulted⟩] s.toJson =
        some [some (.string s.name), some (.string s.displayName), some (.string s.state.name),
          s.error.map .string, s.entity.map .string] := by
  obtain ⟨name, displayName, state, error, entity⟩ := s
  cases error <;> cases entity <;> simp [toJson, Json.format, Value.member?]

/-- A text that may be missing is read back. -/
theorem optional_string (o : Option String) :
    Json.format.optional Value.text? (o.map .string) = some o := by
  cases o <;> rfl

/-- An entry is read from its record: what was left out is absent again. -/
theorem RecipeStatus.ofJson?_toJson (s : RecipeStatus) : ofJson? s.toJson = some s := by
  simp only [ofJson?, s.fields_toJson, Format.required, Value.text?, s.state.choice_name,
    s.state.ofName?_name, optional_string, Option.bind_eq_bind, Option.bind_some, Option.pure_def]

/-- The entries of a list are read back one after the other. -/
theorem mapM_ofJson? (l : List RecipeStatus) :
    (l.map RecipeStatus.toJson).mapM RecipeStatus.ofJson? = some l := by
  induction l with
  | nil => rfl
  | cons s l ih => simp [List.mapM_cons, s.ofJson?_toJson, ih]

/-- A status list is read from its record. -/
theorem StatusList.ofJson?_toJson (l : StatusList) : ofJson? l.toJson = some l := by
  have hfields : Json.format.fields [⟨"statuses", .required⟩] l.toJson =
      some [some (.array (l.statuses.map RecipeStatus.toJson))] := by
    simp [toJson, Json.format, Value.member?]
  have hlist : Json.format.list RecipeStatus.ofJson?
      (.array (l.statuses.map RecipeStatus.toJson)) = some l.statuses :=
    mapM_ofJson? l.statuses
  simp only [ofJson?, hfields, Format.required, hlist, Option.bind_eq_bind, Option.bind_some,
    Option.pure_def]

/-- The record of an entry is flat. -/
theorem RecipeStatus.nested_toJson (s : RecipeStatus) (d : Nat) : Nested (d + 1) s.toJson := by
  refine .object fun m hm => ?_
  simp only [List.mem_append, List.mem_cons, List.not_mem_nil, or_false, Option.mem_toList,
    Option.map_eq_some_iff] at hm
  rcases hm with ((rfl | rfl | rfl) | ⟨_, -, rfl⟩) | ⟨_, -, rfl⟩ <;> exact .string _ _

/-- The record of a status list is nested at most three levels deep. -/
theorem StatusList.nested_toJson (l : StatusList) (d : Nat) : Nested (d + 3) l.toJson := by
  refine .object fun m hm => ?_
  obtain rfl := List.mem_singleton.1 hm
  refine .array fun x hx => ?_
  obtain ⟨s, -, rfl⟩ := List.mem_map.1 hx
  exact s.nested_toJson d

/-! ## The document on disk -/

namespace StatusFile

/-- The file at a path holds a document that is read as a status list. -/
def Holds (d : Files.Disk) (path : String) (l : StatusList) : Prop :=
  ∃ text v, d.readText path = .ok text ∧ Value.ofText? text = some v ∧
    StatusList.ofJson? v = some l

/-- A status list that was written is read back. -/
theorem holds_of_write {d d' : Files.Disk} {path : String} {l : StatusList}
    (h : d.write false path (Text.bytesOf l.toJson.pretty) = .ok d') : Holds d' path l := by
  exact ⟨l.toJson.pretty, l.toJson, Files.Disk.readText_write h,
    Value.ofText?_pretty (l.nested_toJson 124), l.ofJson?_toJson⟩

/-- If a change of the files goes well, the files are as it made them. -/
theorem changeDisk_ok {f : Files.Disk → Except Files.Problem Files.Disk} {wrap : String → Failure}
    {m : Machine} (h : (Machine.changeDisk f wrap m).value = .ok ()) :
    f m.disk = .ok (Machine.changeDisk f wrap m).world.disk := by
  unfold Machine.changeDisk at h ⊢
  split at h
  · next hf => rw [hf]
  · cases h

/-- After a write that went well the file holds the status list. -/
theorem holds_of_write_ok {path : String} {l : StatusList} {m : Machine}
    (h : (write path l m).value = .ok ()) : Holds (write path l m).world.disk path l := by
  rw [write] at h ⊢
  obtain ⟨_, -, h, hw⟩ := Work.bind_ok h
  rw [hw]
  obtain ⟨_, h, -, hw⟩ := Work.bind_ok h
  rw [hw]
  exact holds_of_write (changeDisk_ok h)

/-! ## Reports, one after the other -/

/-- A report to a status file that is made on a machine. The disk may be at fault: then the failure
of the write and the machine that it leaves are given. -/
structure Turn where
  report : Report
  machine : Machine
  fault : Option (Failure × Machine)

namespace Turn

/-- How a status list is saved in a turn. -/
def save (t : Turn) (path : String) (l : StatusList) : Action Machine Unit :=
  match t.fault with
  | none => write path l
  | some (e, m) => fun _ => ⟨.error e, [], m⟩

/-- What a turn does with a status file. -/
def take (t : Turn) (f : StatusFile) : Outcome Output (Machine × StatusFile) Unit :=
  reportWith t.save t.report (t.machine, f)

/-- Where the disk is not at fault, a turn writes the file. -/
theorem save_eq_write {t : Turn} (h : t.fault = none) : t.save = write := by
  funext path l
  rw [save, h]

/-- A turn without a fault is a report on its machine. -/
theorem take_eq_report {t : Turn} (h : t.fault = none) (f : StatusFile) :
    t.take f = StatusFile.report t.report (t.machine, f) := by
  rw [take, save_eq_write h, StatusFile.report]

end Turn

/-- In memory a report always counts, whatever becomes of saving it. -/
theorem reportWith_file {σ : Type} (save : String → StatusList → Action σ Unit) (r : Report)
    (w : σ) (f : StatusFile) :
    (reportWith save r (w, f)).world.2 = { f with list := f.list.update r } := rfl

/-- The status file after turns, from a new one. -/
def afterTurns (path : String) (ts : List Turn) : StatusFile :=
  ts.foldl (fun f t => (t.take f).world.2) (new path)

/-- What turns mention. -/
def mentionsOf (ts : List Turn) : List Mention := ts.flatMap (·.report.mentions)

/-- The last turn is made on the status file that the ones before it leave. -/
theorem afterTurns_concat (path : String) (ts : List Turn) (t : Turn) :
    afterTurns path (ts ++ [t]) = (t.take (afterTurns path ts)).world.2 := by
  simp [afterTurns]

/-- After turns the list is that of all that they mention. -/
theorem afterTurns_eq (path : String) (ts : List Turn) :
    afterTurns path ts = ⟨path, .ofMentions (mentionsOf ts)⟩ := by
  induction ts using List.reverseRecOn with
  | nil => rfl
  | append_singleton ts t ih =>
    rw [afterTurns_concat, ih, Turn.take, reportWith_file]
    simp [StatusList.ofMentions, StatusList.update_eq, mentionsOf]

/-- A turn that goes well leaves the list on disk that is in memory. -/
theorem holds_of_take_ok {t : Turn} {f : StatusFile} (h : (t.take f).value = .ok ()) :
    Holds (t.take f).world.1.disk f.path (t.take f).world.2.list := by
  have hsave : (t.take f).value = (t.save f.path (f.list.update t.report) t.machine).value := rfl
  have hdisk : (t.take f).world.1 = (t.save f.path (f.list.update t.report) t.machine).world := rfl
  rw [hsave] at h
  rw [hdisk, Turn.take, reportWith_file]
  cases hf : t.fault with
  | none =>
    rw [Turn.save_eq_write hf] at h ⊢
    exact holds_of_write_ok h
  | some fault => simp [Turn.save, hf] at h

/-- No report is lost. After every turn, whether the list could be saved or not, the names of the
entries are the mentioned ones, each once and in the order of their first mention, and every entry
has what the latest mention of its name says. After a turn that goes well the file holds just this
list, and with it what earlier turns failed to save. -/
theorem no_lost_update (path : String) (ts : List Turn) (t : Turn) :
    let done := t.take (afterTurns path ts)
    let file := done.world.2
    let mentions := mentionsOf (ts ++ [t])
    (t.fault = none → done = report t.report (t.machine, afterTurns path ts)) ∧
    (file.list.statuses.map RecipeStatus.name).Nodup ∧
    file.list.statuses.map RecipeStatus.name = (mentions.map Mention.name).eraseDups ∧
    (∀ s ∈ file.list.statuses, ∃ m,
      (mentions.filter (·.recipe.name = s.name)).getLast? = some m ∧
      s.displayName = m.recipe.displayName ∧ s.state = m.state ∧
      s.error = (if m.message = "" then none else some m.message) ∧
      s.entity = (if m.entity = "" then none else some m.entity)) ∧
    (done.value = .ok () → ∃ text v, done.world.1.disk.readText path = .ok text ∧
      Value.ofText? text = some v ∧ StatusList.ofJson? v = some file.list) := by
  intro done file mentions
  have hfile : file = ⟨path, .ofMentions mentions⟩ := by
    rw [← afterTurns_eq, afterTurns_concat]
  refine ⟨fun ht => Turn.take_eq_report ht _, ?_, ?_, ?_, ?_⟩
  · rw [hfile]
    exact StatusList.nodup_names mentions
  · rw [hfile]
    exact StatusList.names_ofMentions mentions
  · intro s hs
    rw [hfile] at hs
    obtain ⟨m, hm, he⟩ := StatusList.latest_of_mem hs
    exact ⟨m, hm, by rw [he]; rfl, by rw [he]; rfl, by rw [he]; rfl, by rw [he]; rfl⟩
  · intro hok
    have hpath : (afterTurns path ts).path = path := by rw [afterTurns_eq]
    rw [← hpath]
    exact holds_of_take_ok hok

end StatusFile

end Provision
