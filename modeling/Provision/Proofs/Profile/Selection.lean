import Provision.Program
import Provision.Proofs.Machine.Interrupted
import Provision.Proofs.Table

/-!
# The profile of a run

A run wants the profile that it is asked for, or else the default one (`ProfileStore.wanted`). It
gets the profile that is stored under that name, and fails if there is none; a run that wants none
gets the only profile of a store that has just one. So profiles under other names matter only to a
run that wants none (`ProfileStore.resolve_congr`).

A listing shows every profile of a store, and marks the one that a run gets which is asked for none
(`ProfileStore.Lists`). The command that lists profiles and the one that installs recipes read the
same store, so what is marked is what an installation says it uses
(`ProfileStore.resolve_listed`).
-/

namespace Provision

namespace ProfileStore

section
variable {s t : ProfileStore} {requested : Option String} {name : String} {p : Profile}

/-! ## Resolving -/

/-- The name that a run wants: the requested one, or else the default. -/
def wanted (s : ProfileStore) (requested : Option String) : Option String :=
  requested.or s.default

/-- What a wanted profile is called in a failure. -/
def wantedAs (requested : Option String) : String :=
  if requested.isSome then "profile" else "default profile"

/-- A run that wants a profile gets the one that is stored under the name. -/
theorem resolve_of_wanted (h : s.wanted requested = some name) :
    s.resolve requested = s.named (wantedAs requested) name := by
  cases requested with
  | some n =>
    obtain rfl : n = name := Option.some.inj h
    rfl
  | none =>
    have hdefault : s.default = some name := h
    unfold resolve
    rw [hdefault]
    rfl

/-- A run that wants none gets the only profile, if there is just one. -/
theorem resolve_of_not_wanted (h : s.wanted requested = none) :
    s.resolve requested = .ok (match s.profiles.rows with
      | [row] => some row
      | _ => none) := by
  obtain ⟨rfl, hdefault⟩ : requested = none ∧ s.default = none := Option.or_eq_none_iff.1 h
  unfold resolve
  rw [hdefault]
  match s.profiles.rows with
  | [] => rfl
  | [row] => rfl
  | _ :: _ :: _ => rfl

/-- A wanted profile is the one that is stored under its name. -/
theorem named_eq_ok {what : String} {found : Option (String × Profile)} :
    s.named what name = .ok found ↔
      ∃ p, s.profiles.get? name = some p ∧ found = some (name, p) := by
  rw [named]
  cases s.profiles.get? name <;> simp [eq_comm]

/-- Getting a wanted profile fails if nothing is stored under its name. -/
theorem named_eq_error {what : String} {e : Failure} :
    s.named what name = .error e ↔ s.profiles.get? name = none ∧
      e = .profile (what ++ " '" ++ name ++ "' is not configured") := by
  rw [named]
  cases s.profiles.get? name <;> simp [eq_comm]

/-- A run gets the stored profile of the name that it wants, or else the only one. -/
theorem resolve_eq_some : s.resolve requested = .ok (some (name, p)) ↔
    s.profiles.get? name = some p ∧ (s.wanted requested = some name ∨
      s.wanted requested = none ∧ s.profiles.rows.length = 1) := by
  cases hwanted : s.wanted requested with
  | some n =>
    rw [resolve_of_wanted hwanted, named_eq_ok]
    constructor
    · rintro ⟨_, hn, h⟩
      cases h
      exact ⟨hn, .inl rfl⟩
    · rintro ⟨hp, h⟩
      obtain rfl : n = name := by simpa using h
      exact ⟨p, hp, rfl⟩
  | none =>
    rw [resolve_of_not_wanted hwanted, Except.ok.injEq, Table.get?_eq_some]
    match s.profiles.rows with
    | [] => simp
    | [row] => simp [eq_comm]
    | _ :: _ :: _ => simp

/-- A run fails just if it wants a profile that is not stored. -/
theorem resolve_eq_error {e : Failure} : s.resolve requested = .error e ↔
    ∃ n, s.wanted requested = some n ∧ s.profiles.get? n = none ∧
      e = .profile (wantedAs requested ++ " '" ++ n ++ "' is not configured") := by
  cases hwanted : s.wanted requested with
  | some n => simp [resolve_of_wanted hwanted, named_eq_error]
  | none => simp [resolve_of_not_wanted hwanted]

/-- A run gets no profile just if it wants none and there is not just one. -/
theorem resolve_eq_none : s.resolve requested = .ok none ↔
    s.wanted requested = none ∧ s.profiles.rows.length ≠ 1 := by
  cases hwanted : s.wanted requested with
  | some n => simp [resolve_of_wanted hwanted, named_eq_ok]
  | none =>
    rw [resolve_of_not_wanted hwanted, Except.ok.injEq]
    match s.profiles.rows with
    | [] => simp
    | [row] => simp
    | _ :: _ :: _ => simp

/-- To a run that wants a profile, only the one of that name matters. -/
theorem resolve_congr (hwanted : s.wanted requested = some name) (hdefault : t.default = s.default)
    (hname : t.profiles.get? name = s.profiles.get? name) :
    t.resolve requested = s.resolve requested := by
  have hwanted' : t.wanted requested = some name := by rw [← hwanted, wanted, hdefault, wanted]
  rw [resolve_of_wanted hwanted, resolve_of_wanted hwanted', named, named, hname]

end

/-! ## Listing -/

/-- A profile in a listing, which may be marked as the default. -/
structure Listed where
  name : String
  profile : Profile
  marked : Bool

/-- The lines of a profile in a listing. -/
def Listed.text (showKeys : Bool) (l : Listed) : String :=
  "  " ++ l.name ++ (if l.marked then " (default)" else "") ++ "\n" ++
    "    Account: " ++ toString l.profile.accountId ++ "\n" ++
    "    Region: " ++ l.profile.region.name ++ "\n" ++
    "    API key: " ++
      (if showKeys then l.profile.apiKey else Profile.maskedKey l.profile.apiKey) ++ "\n" ++ "\n"

/-- The text of a listing. -/
def listingText (path : String) (showKeys : Bool) (ls : List Listed) : String :=
  if ls.isEmpty then "No profiles configured.\nAdd one to " ++ path ++ "\n"
  else "Configured profiles (" ++ toString ls.length ++ "):\n\n" ++
    String.join (ls.map (·.text showKeys))

/-- What is listed are the profiles of a store, each once and in the order of their names, and what
is marked is the profile of a run that is asked for none. -/
structure Lists (s : ProfileStore) (ls : List Listed) : Prop where
  rising : ls.Pairwise fun l k => l.name < k.name
  mem_iff : ∀ l, l ∈ ls ↔ s.profiles.get? l.name = some l.profile ∧
    (l.marked = true ↔ s.resolve none = .ok (some (l.name, l.profile)))

variable {s : ProfileStore} {ls : List Listed} {path text : String} {showKeys : Bool}

/-- At most one profile is marked. -/
theorem Lists.length_marked_le (h : s.Lists ls) : (ls.filter (·.marked)).length ≤ 1 := by
  match hmarked : ls.filter (·.marked) with
  | [] => simp [hmarked]
  | [l] => simp [hmarked]
  | l :: k :: rest =>
    have resolved {i : Listed} (hi : i ∈ ls.filter (·.marked)) :
        s.resolve none = .ok (some (i.name, i.profile)) := by
      obtain ⟨hi, hmark⟩ := List.mem_filter.1 hi
      exact ((h.mem_iff i).1 hi).2.1 hmark
    have hl := resolved (hmarked ▸ List.mem_cons_self)
    have hk := resolved (hmarked ▸ List.mem_cons_of_mem l List.mem_cons_self)
    have hname : l.name = k.name := by
      have heq := hl.symm.trans hk
      simp only [Except.ok.injEq, Option.some.injEq, Prod.mk.injEq] at heq
      exact heq.1
    have hlt : l.name < k.name := by
      have hrising := h.rising.sublist (List.filter_sublist (p := (·.marked)))
      rw [hmarked] at hrising
      exact (List.pairwise_cons.1 hrising).1 k List.mem_cons_self
    exact absurd (hname ▸ hlt) (String.lt_irrefl k.name)

/-- The profiles of a listing, when one of them is the standard one. -/
def listedBy (s : ProfileStore) (standard : Option String) : List Listed :=
  s.profiles.rows.map fun r => ⟨r.1, r.2, decide (standard = some r.1)⟩

/-- Four lines and an empty one. -/
theorem intercalate_lines (a b c d : String) : String.intercalate "\n" [a, b, c, d, "", ""] =
    a ++ "\n" ++ b ++ "\n" ++ c ++ "\n" ++ d ++ "\n" ++ "\n" := by
  rw [String.intercalate_cons_cons, String.intercalate_cons_cons, String.intercalate_cons_cons,
    String.intercalate_cons_cons, String.intercalate_cons_cons, String.intercalate_singleton,
    String.empty_append]
  simp only [String.append_assoc, String.append_empty]

/-- A profile in a listing is shown with its name, its account and its key, and may be marked. -/
theorem listed_eq (standard : Option String) (name : String) (p : Profile) :
    p.listed showKeys standard name =
      Listed.text showKeys ⟨name, p, decide (standard = some name)⟩ := by
  have hmark : (if decide (standard = some name) = true then " (default)" else "") =
      if standard = some name then " (default)" else "" := by
    by_cases h : standard = some name <;> simp [h]
  unfold Profile.listed Listed.text
  rw [intercalate_lines, hmark]
  simp only [String.append_assoc]

/-- The profiles of a store are listed if the one is marked that a run gets. -/
theorem lists_listedBy {found : Option (String × Profile)} (h : s.resolve none = .ok found) :
    s.Lists (s.listedBy (found.map Prod.fst)) := by
  refine ⟨?_, fun l => ?_⟩
  · rw [listedBy, List.pairwise_map]
    exact s.profiles.rising
  · have hmark {n : String} {p : Profile} (hp : (n, p) ∈ s.profiles.rows) :
        found.map Prod.fst = some n ↔ s.resolve none = .ok (some (n, p)) := by
      rw [h, Except.ok.injEq]
      constructor
      · intro hn
        obtain ⟨⟨n', p'⟩, rfl, rfl⟩ := Option.map_eq_some_iff.1 hn
        have hp' := Table.get?_eq_some.1 (resolve_eq_some.1 h).1
        rw [Table.value_unique hp' hp]
      · rintro rfl
        rfl
    rw [listedBy, List.mem_map, Table.get?_eq_some]
    constructor
    · rintro ⟨⟨n, p⟩, hp, rfl⟩
      exact ⟨hp, decide_eq_true_iff.trans (hmark hp)⟩
    · rintro ⟨hp, hl⟩
      refine ⟨_, hp, ?_⟩
      obtain ⟨n, p, b⟩ := l
      have hb : decide (found.map Prod.fst = some n) = b := by
        rw [Bool.eq_iff_iff, decide_eq_true_iff, hl, hmark hp]
      exact congrArg _ hb

/-- A listing lists the profiles of a store. -/
theorem lists_of_listing (h : s.listing path showKeys = .ok text) :
    ∃ ls, s.Lists ls ∧ text = listingText path showKeys ls := by
  unfold listing at h
  split at h
  · next hempty =>
    obtain rfl := Except.ok.inj h
    have hrows : s.profiles.rows = [] := List.isEmpty_iff.1 hempty
    refine ⟨[], ⟨List.Pairwise.nil, fun l => ?_⟩, rfl⟩
    simp [Table.get?_eq_some, hrows]
  · next hempty =>
    cases hfound : s.resolve none with
    | error e =>
      rw [hfound] at h
      cases h
    | ok found =>
    rw [hfound] at h
    obtain rfl := Except.ok.inj h
    refine ⟨_, lists_listedBy hfound, ?_⟩
    have hrows : s.profiles.rows ≠ [] := fun hrows => hempty (List.isEmpty_iff.2 hrows)
    simp [listingText, listedBy, hrows, listed_eq, Function.comp_def]

/-- A store is read from its file; if that is missing, this is said, and the store is empty. -/
theorem load_eq (path : String) (m : Machine) : load path m =
    if m.disk.exists? path then
      ⟨((m.disk.readText path).mapError fun p => .io p.message).bind (ofYaml path), [], m⟩
    else
      ⟨.ok empty, [.message ⟨.debug, .profiles, "No profile store, continuing without profiles",
        [("path", path)]⟩], m⟩ := by
  have hload : load path m = (if !m.disk.exists? path then (do
        Action.say .debug .profiles "No profile store, continuing without profiles" [("path", path)]
        return empty)
      else do
        let text ← Machine.askDisk (·.readText path) .io
        Work.ofExcept (ofYaml path text) : Action Machine ProfileStore) m := rfl
  rw [hload]
  cases m.disk.exists? path with
  | false => rfl
  | true =>
    have hask : Machine.askDisk (·.readText path) .io m =
        ⟨(m.disk.readText path).mapError fun p => .io p.message, [], m⟩ := by
      simp only [Machine.askDisk]
      cases m.disk.readText path <;> rfl
    simp only [Bool.not_true, Bool.false_eq_true, if_false, if_true, Work.bind_apply, hask]
    cases m.disk.readText path with
    | error p => rfl
    | ok text =>
      simp only [Except.mapError, Except.bind]
      cases ofYaml path text <;> rfl

/-- Reading the profiles changes nothing. -/
theorem load_world (path : String) (m : Machine) : (load path m).world = m := by
  rw [load_eq]
  split <;> rfl

end ProfileStore

/-! ## The commands -/

open CommandLine

/-- Work with the profiles that are stored in the configuration folder. -/
def withProfiles {α : Type} (configFolder : Option String)
    (go : String → ProfileStore → Action Machine α) : Action Machine α := do
  let folder ← Work.ofExcept (Configuration.folder configFolder (← Work.world))
  let store ← ProfileStore.load (Files.join folder Configuration.profilesName)
  go folder store

/-- An installation works with the stored profiles, and first picks one of them. -/
theorem CommandLine.InstallOrder.perform_eq (o : InstallOrder) (configFolder : Option String) :
    ∃ go : String → Profile → Action Machine Unit, ∀ requested, o.perform configFolder requested =
      withProfiles configFolder fun folder store => store.choose requested >>= go folder :=
  ⟨_, fun _ => rfl⟩

/-- What a listing does with the stored profiles. -/
def ProfileStore.showListing (showKeys : Bool) (folder : String) (s : ProfileStore) :
    Action Machine Unit := do
  Work.tell (.stdout (← Work.ofExcept
    (s.listing (Files.join folder Configuration.profilesName) showKeys)))

/-- A listing shows the profiles that are stored in the configuration folder. -/
theorem listProfiles_eq (showKeys : Bool) (configFolder : Option String) :
    listProfiles showKeys configFolder =
      withProfiles configFolder (ProfileStore.showListing showKeys) :=
  rfl

section
variable {α : Type} {m : Machine} {configFolder : Option String} {folder : String}
  {s : ProfileStore} {go : String → ProfileStore → Action Machine α}

/-- The profiles in the configuration folder are read as a store. -/
structure ReadsProfiles (configFolder : Option String) (m : Machine) (folder : String)
    (s : ProfileStore) : Prop where
  isFolder : Configuration.folder configFolder m = .ok folder
  isStore : (ProfileStore.load (Files.join folder Configuration.profilesName) m).value = .ok s

/-- What is said while the profiles are read. -/
def readingLog (folder : String) (m : Machine) : List Output :=
  (ProfileStore.load (Files.join folder Configuration.profilesName) m).log

/-- Work with stored profiles is the work after reading them, which changes nothing. -/
theorem withProfiles_of_reads (h : ReadsProfiles configFolder m folder s) :
    withProfiles configFolder go m =
      ⟨(go folder s m).value, readingLog folder m ++ (go folder s m).log,
        (go folder s m).world⟩ := by
  have hbegin : withProfiles configFolder go m =
      (Work.ofExcept (Configuration.folder configFolder m) >>= fun folder =>
        ProfileStore.load (Files.join folder Configuration.profilesName) >>= go folder) m := rfl
  have hfolder : withProfiles configFolder go m =
      (ProfileStore.load (Files.join folder Configuration.profilesName) >>= go folder) m := by
    rw [hbegin, h.isFolder]
    rfl
  rw [hfolder, Work.bind_eq_of_ok h.isStore, ProfileStore.load_world]
  rfl

/-- If work with stored profiles goes well, they were read. -/
theorem exists_reads {a : α} (h : (withProfiles configFolder go m).value = .ok a) :
    ∃ folder s, ReadsProfiles configFolder m folder s := by
  have hbegin : withProfiles configFolder go m =
      (Work.ofExcept (Configuration.folder configFolder m) >>= fun folder =>
        ProfileStore.load (Files.join folder Configuration.profilesName) >>= go folder) m := rfl
  rw [hbegin] at h
  cases hfolder : Configuration.folder configFolder m with
  | error e =>
    rw [hfolder] at h
    cases h
  | ok folder =>
    rw [hfolder] at h
    have hrest : ((ProfileStore.load (Files.join folder Configuration.profilesName) >>=
        go folder) m).value = .ok a := h
    obtain ⟨s, hs, -⟩ := Work.bind_ok hrest
    exact ⟨folder, s, hfolder, hs⟩

/-- A listing that goes well is shown. -/
theorem ProfileStore.showListing_ok {showKeys : Bool}
    (h : (s.showListing showKeys folder m).value = .ok ()) :
    ∃ text, s.listing (Files.join folder Configuration.profilesName) showKeys = .ok text ∧
      (s.showListing showKeys folder m).log = [.stdout text] := by
  unfold showListing at h ⊢
  cases htext : s.listing (Files.join folder Configuration.profilesName) showKeys with
  | error e =>
    rw [htext] at h
    cases h
  | ok text => exact ⟨text, rfl, rfl⟩

/-- What an installation says of the profile that it uses. -/
def usedMessage (name : String) (p : Profile) : Message :=
  ⟨.info, .command, "Using profile", [("profile", name), ("account_id", toString p.accountId)]⟩

/-- What is said when there is no profile to use. -/
def unusedMessage : Message :=
  ⟨.debug, .command, "No profile configured, installing without account credentials", []⟩

/-- Work with the profile that a run gets, which is said first. -/
def ProfileStore.using (go : Profile → Action Machine Unit) :
    Option (String × Profile) → Action Machine Unit
  | some (name, p) => Work.tell (.message (usedMessage name p)) >>= fun _ => go p
  | none => Work.tell (.message unusedMessage) >>= fun _ => go Profile.none

/-- Picking a profile and going on with it is resolving it and using it. -/
theorem ProfileStore.choose_bind (s : ProfileStore) (requested : Option String)
    (go : Profile → Action Machine Unit) :
    s.choose requested >>= go = Work.ofExcept (s.resolve requested) >>= ProfileStore.using go := by
  unfold choose
  rw [bind_assoc]
  congr 1
  funext found
  match found with
  | some (name, p) => rfl
  | none => rfl

/-- An installation says of a stored profile that it uses it just if that is the one it gets. -/
theorem ProfileStore.says_used_iff {requested : Option String} {name : String} {p : Profile}
    (hp : s.profiles.get? name = some p) (go : Profile → Action Machine Unit) :
    (∃ rest, ((s.choose requested >>= go) m).log = .message (usedMessage name p) :: rest) ↔
      s.resolve requested = .ok (some (name, p)) := by
  rw [choose_bind]
  cases hresolve : s.resolve requested with
  | error e => simp [Work.ofExcept, Work.bind_apply, Work.fail]
  | ok found =>
    have hlog : ((Work.ofExcept (.ok found) >>= ProfileStore.using go) m).log =
        (ProfileStore.using go found m).log := rfl
    rw [hlog]
    match found with
    | none =>
      have hlog : (ProfileStore.using go none m).log =
          .message unusedMessage :: (go Profile.none m).log := rfl
      simp [hlog, unusedMessage, usedMessage]
    | some (n, q) =>
      have hlog : (ProfileStore.using go (some (n, q)) m).log =
          .message (usedMessage n q) :: (go q m).log := rfl
      constructor
      · rintro ⟨rest, hrest⟩
        have hname : n = name := by
          have hhead := congrArg List.head? (hlog.symm.trans hrest)
          simp only [List.head?_cons, Option.some.injEq, Output.message.injEq, usedMessage,
            Message.mk.injEq, List.cons.injEq, Prod.mk.injEq, true_and, and_true] at hhead
          exact hhead.1
        subst hname
        rw [(resolve_eq_some.1 hresolve).1] at hp
        cases hp
        rfl
      · rintro ⟨⟩
        exact ⟨_, hlog⟩

end

/-! ## What a run gets and what is listed -/

/-- A run gets a profile just if that is stored under the name that the run wants, which is the
requested one or else the default, or if it wants none and this is the only profile. It fails just
if it wants a name under which nothing is stored, and gets none just if it wants none and there is
not just one profile. If it wants a name, what is stored under other names does not matter.

If listing the profiles goes well, all that it shows is a listing of the stored profiles, each once
and in the order of their names, and marked is the one, if any, that a run gets which is asked for
none. It is the one of which an installation that is asked for none says that it uses it. -/
theorem ProfileStore.resolve_listed :
    (∀ (s : ProfileStore) (requested : Option String),
      (∀ name p, s.resolve requested = .ok (some (name, p)) ↔ s.profiles.get? name = some p ∧
        (s.wanted requested = some name ∨
          s.wanted requested = none ∧ s.profiles.rows.length = 1)) ∧
      (∀ e, s.resolve requested = .error e ↔
        ∃ name, s.wanted requested = some name ∧ s.profiles.get? name = none ∧
          e = .profile (wantedAs requested ++ " '" ++ name ++ "' is not configured")) ∧
      (s.resolve requested = .ok none ↔
        s.wanted requested = none ∧ s.profiles.rows.length ≠ 1) ∧
      ∀ (t : ProfileStore) (name : String), s.wanted requested = some name →
        t.default = s.default → t.profiles.get? name = s.profiles.get? name →
        t.resolve requested = s.resolve requested) ∧
    ∀ (list : Invocation) (showKeys : Bool) (m : Machine), list.task = .profiles showKeys →
      (list.perform m).value = .ok () →
      ∃ folder s ls, ReadsProfiles list.configFolder m folder s ∧
        (list.perform m).log = readingLog folder m ++
          [.stdout (listingText (Files.join folder Configuration.profilesName) showKeys ls)] ∧
        s.Lists ls ∧ (ls.filter (·.marked)).length ≤ 1 ∧
        ∀ l ∈ ls, ∀ (install : Invocation) (o : InstallOrder), install.task = .install o →
          install.configFolder = list.configFolder → install.profile = none →
          (l.marked = true ↔ ∃ rest, (install.perform m).log =
            readingLog folder m ++ .message (usedMessage l.name l.profile) :: rest) := by
  refine ⟨fun s requested => ⟨fun name p => resolve_eq_some, fun e => resolve_eq_error,
    resolve_eq_none, fun t name => resolve_congr⟩, fun list showKeys m htask h => ?_⟩
  have hlist : list.perform = withProfiles list.configFolder (showListing showKeys) := by
    rw [Invocation.perform, htask]
    exact listProfiles_eq showKeys list.configFolder
  rw [hlist] at h ⊢
  obtain ⟨folder, s, hreads⟩ := exists_reads h
  rw [withProfiles_of_reads hreads] at h ⊢
  obtain ⟨text, htext, hlog⟩ := showListing_ok h
  obtain ⟨ls, hls, rfl⟩ := lists_of_listing htext
  refine ⟨folder, s, ls, hreads, by rw [hlog], hls, hls.length_marked_le,
    fun l hl install o hinstall hfolder hprofile => ?_⟩
  obtain ⟨hstored, hmarked⟩ := (hls.mem_iff l).1 hl
  obtain ⟨go, hgo⟩ := o.perform_eq list.configFolder
  have hperform : install.perform =
      withProfiles list.configFolder fun folder store => store.choose none >>= go folder := by
    rw [Invocation.perform, hinstall, hfolder, hprofile]
    exact hgo none
  rw [hperform, withProfiles_of_reads hreads, hmarked, ← says_used_iff (m := m) hstored (go folder)]
  simp only [List.append_right_inj]

/-- A file with two profiles, of which the second is the default. -/
def twoProfiles : Files.Entry :=
  .file (Text.bytesOf ("default: b\nprofiles:\n  a:\n    accountId: 7\n" ++
    "  b:\n    accountId: 8\n    apiKey: k\n    region: eu\n"))

/-- A machine with nothing but these files in its root. -/
def machineAt (children : List (String × Files.Entry)) : Machine :=
  { (default : Machine) with disk := ⟨.folder children, []⟩ }

/-- Of two profiles both are listed, the default is marked, and it is the one that an installation
says it uses. -/
theorem ProfileStore.resolve_listed_default :
    let list : Invocation := ⟨none, some "/", 0, .profiles false⟩
    let install : Invocation :=
      ⟨none, some "/", 0, .install ⟨[], [], true, true, true, true, none, none⟩⟩
    let m := machineAt [("profiles.yaml", twoProfiles)]
    (list.perform m).value = .ok () ∧
    ∃ folder s ls, ReadsProfiles (some "/") m folder s ∧
      (list.perform m).log = readingLog folder m ++
        [.stdout (listingText (Files.join folder Configuration.profilesName) false ls)] ∧
      s.Lists ls ∧ ⟨"a", ⟨7, "", .us⟩, false⟩ ∈ ls ∧ ⟨"b", ⟨8, "k", .eu⟩, true⟩ ∈ ls ∧
      ∃ rest, (install.perform m).log =
        readingLog folder m ++ .message (usedMessage "b" ⟨8, "k", .eu⟩) :: rest := by
  intro list install m
  have hlisted : (list.perform m).value = .ok () := by
    decide +kernel
  obtain ⟨folder, s, ls, hreads, hlog, hls, -, hused⟩ :=
    resolve_listed.2 list false m rfl hlisted
  have hstore : s = ⟨some "b", ⟨[("a", ⟨7, "", .us⟩), ("b", ⟨8, "k", .eu⟩)], by decide⟩⟩ := by
    obtain rfl : "/" = folder := Except.ok.inj hreads.isFolder
    have hload : (load (Files.join "/" Configuration.profilesName) m).value =
        .ok ⟨some "b", ⟨[("a", ⟨7, "", .us⟩), ("b", ⟨8, "k", .eu⟩)], by decide⟩⟩ := by
      decide +kernel
    exact Except.ok.inj (hreads.isStore.symm.trans hload)
  have ha : ⟨"a", ⟨7, "", .us⟩, false⟩ ∈ ls := (hls.mem_iff _).2 (by rw [hstore]; decide)
  have hb : ⟨"b", ⟨8, "k", .eu⟩, true⟩ ∈ ls := (hls.mem_iff _).2 (by rw [hstore]; decide)
  exact ⟨hlisted, folder, s, ls, hreads, hlog, hls, ha, hb,
    (hused _ hb install _ rfl rfl rfl).1 rfl⟩

/-- Of two profiles the default is marked. -/
example : ProfileStore.listing
    ⟨some "b", ⟨[("a", ⟨1, "", .us⟩), ("b", ⟨2, "12345", .eu⟩)], by decide⟩⟩ "p" false =
    .ok ("Configured profiles (2):\n\n" ++
      "  a\n    Account: 1\n    Region: us\n    API key: (not set)\n\n" ++
      "  b (default)\n    Account: 2\n    Region: eu\n    API key: *2345\n\n") := rfl

end Provision
