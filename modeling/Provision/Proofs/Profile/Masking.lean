import Provision.Proofs.Profile.Selection

/-!
# Keys in a listing

Without its keys a listing tells of a key whether it is set, its last four characters, and how many
characters come before these, where more than eight count as eight (`Profile.maskedKey_eq_iff`). So
stores that differ in nothing else have the same listing (`ProfileStore.listing_congr`), and runs of
the program that list them show the same (`ProfileStore.listing_masked`).
-/

namespace Provision

/-! ## Masked keys -/

namespace Profile

/-- Keys that look the same when they are masked: both are not set, or both are set, end in the same
four characters, and have as many characters before these, where more than eight count as eight. -/
def LookAlike (k l : String) : Prop :=
  k = "" ∧ l = "" ∨ k ≠ "" ∧ l ≠ "" ∧
    k.toList.reverse.take 4 = l.toList.reverse.take 4 ∧ min 8 (k.length - 4) = min 8 (l.length - 4)

variable {k l : String}

/-- A key that is set is shown as at most eight stars and its last four characters. -/
theorem toList_maskedKey (hk : k ≠ "") : (maskedKey k).toList =
    List.replicate (min 8 (k.length - 4)) '*' ++ (k.toList.reverse.take 4).reverse := by
  rw [maskedKey, if_neg hk, String.toList_ofList, List.take_reverse, List.reverse_reverse]
  rfl

/-- What is shown of a key has at most twelve characters. -/
theorem length_maskedKey (hk : k ≠ "") : (maskedKey k).length = min 12 k.length := by
  rw [← String.length_toList, toList_maskedKey hk]
  simp only [List.length_append, List.length_replicate, List.length_reverse, List.length_take,
    String.length_toList]
  omega

/-- A key that is set is not shown as one that is not. -/
theorem maskedKey_ne_unset (hk : k ≠ "") : maskedKey k ≠ maskedKey "" := by
  intro h
  have hlength : min 12 k.length = 9 := by rw [← length_maskedKey hk, h]; rfl
  have hstars : min 8 (k.length - 4) = 5 := by omega
  have hhead : (maskedKey k).toList.head? = some '(' := by rw [h]; rfl
  rw [toList_maskedKey hk, hstars] at hhead
  exact absurd (Option.some.inj hhead : '*' = '(') (by decide)

/-- Two keys are shown alike just if they have in common what may be seen of them. -/
theorem maskedKey_eq_iff : maskedKey k = maskedKey l ↔ LookAlike k l := by
  by_cases hk : k = ""
  · by_cases hl : l = ""
    · simp [LookAlike, hk, hl]
    · simp [LookAlike, hk, hl, (maskedKey_ne_unset hl).symm]
  · by_cases hl : l = ""
    · simp [LookAlike, hk, hl, maskedKey_ne_unset hk]
    · have hset : LookAlike k l ↔ k.toList.reverse.take 4 = l.toList.reverse.take 4 ∧
          min 8 (k.length - 4) = min 8 (l.length - 4) := by
        simp [LookAlike, hk, hl]
      rw [hset]
      constructor
      · intro h
        have hlength : min 12 k.length = min 12 l.length := by
          rw [← length_maskedKey hk, ← length_maskedKey hl, h]
        have hstars : min 8 (k.length - 4) = min 8 (l.length - 4) := by omega
        have htext := congrArg String.toList h
        rw [toList_maskedKey hk, toList_maskedKey hl, hstars] at htext
        exact ⟨List.reverse_injective (List.append_cancel_left htext), hstars⟩
      · rintro ⟨hend, hstars⟩
        rw [← String.toList_inj, toList_maskedKey hk, toList_maskedKey hl, hend, hstars]

/-- Neither the characters of a key before its last four matter, nor how many there are of them if
they are more than eight. -/
theorem lookAlike_append {before before' ending : List Char} (hending : ending.length = 4)
    (hbefore : before.length = before'.length ∨ 8 ≤ before.length ∧ 8 ≤ before'.length) :
    LookAlike (String.ofList (before ++ ending)) (String.ofList (before' ++ ending)) := by
  have hset (cs : List Char) : String.ofList (cs ++ ending) ≠ "" := by
    intro h
    have hlength := congrArg String.length h
    rw [String.length_ofList, List.length_append, hending] at hlength
    cases hlength
  refine .inr ⟨hset before, hset before', ?_, ?_⟩
  · simp [hending]
  · simp only [String.length_ofList, List.length_append, hending]
    omega

end Profile

/-! ## Listings -/

namespace ProfileStore

/-- Stores that have the same default and the same profiles, but for what is not seen of their keys
when these are masked. -/
structure LookAlike (s t : ProfileStore) : Prop where
  default : s.default = t.default
  profiles : List.Forall₂ (fun r r' => r.1 = r'.1 ∧ r.2.accountId = r'.2.accountId ∧
      r.2.region = r'.2.region ∧ Profile.LookAlike r.2.apiKey r'.2.apiKey)
    s.profiles.rows t.profiles.rows

variable {s t : ProfileStore}

/-- Stores that look alike have profiles of the same names. -/
theorem LookAlike.names (h : s.LookAlike t) :
    s.profiles.rows.map Prod.fst = t.profiles.rows.map Prod.fst := by
  rw [← List.forall₂_eq_eq_eq, List.forall₂_map_left_iff, List.forall₂_map_right_iff]
  exact h.profiles.imp fun _ _ hr => hr.1

/-- The name that a run gets does not depend on what is stored under the names. -/
theorem resolve_names (hdefault : s.default = t.default)
    (hnames : s.profiles.rows.map Prod.fst = t.profiles.rows.map Prod.fst)
    (requested : Option String) : (s.resolve requested).map (Option.map Prod.fst) =
      (t.resolve requested).map (Option.map Prod.fst) := by
  have hwanted : t.wanted requested = s.wanted requested := by rw [wanted, wanted, hdefault]
  have hlength : t.profiles.rows.length = s.profiles.rows.length := by
    simpa using congrArg List.length hnames.symm
  have hstored (n : String) :
      (t.profiles.get? n).isSome = true ↔ (s.profiles.get? n).isSome = true := by
    rw [Table.get?_isSome, Table.get?_isSome, hnames]
  cases hs : s.resolve requested with
  | error e =>
    obtain ⟨n, hn, hget, he⟩ := resolve_eq_error.1 hs
    have hget' : t.profiles.get? n = none := by
      rw [← Option.not_isSome_iff_eq_none, hstored, hget]
      exact Bool.false_ne_true
    rw [resolve_eq_error.2 ⟨n, hwanted.trans hn, hget', he⟩]
  | ok found =>
    cases found with
    | none =>
      obtain ⟨hnone, hone⟩ := resolve_eq_none.1 hs
      rw [resolve_eq_none.2 ⟨hwanted.trans hnone, hlength ▸ hone⟩]
    | some row =>
      obtain ⟨n, p⟩ := row
      obtain ⟨hget, hwant⟩ := resolve_eq_some.1 hs
      obtain ⟨q, hq⟩ : ∃ q, t.profiles.get? n = some q :=
        Option.isSome_iff_exists.1 ((hstored n).2 (hget ▸ rfl))
      rw [resolve_eq_some.2 ⟨hq, hwanted ▸ hlength ▸ hwant⟩]
      rfl

/-- Stores that look alike have the same listing without their keys. -/
theorem listing_congr (h : s.LookAlike t) (path : String) :
    s.listing path false = t.listing path false := by
  have htext (u : ProfileStore) : u.listing path false =
      if u.profiles.isEmpty then .ok ("No profiles configured.\nAdd one to " ++ path ++ "\n")
      else ((u.resolve none).map (Option.map Prod.fst)).map fun standard =>
        "Configured profiles (" ++ toString u.profiles.rows.length ++ "):\n\n" ++
          String.join (u.profiles.rows.map fun r => r.2.listed false standard r.1) := by
    rw [listing]
    cases u.resolve none <;> rfl
  have hlength : s.profiles.rows.length = t.profiles.rows.length := h.profiles.length_eq
  have hempty : s.profiles.isEmpty = t.profiles.isEmpty := by
    rw [Table.isEmpty, Table.isEmpty, Bool.eq_iff_iff, List.isEmpty_iff_length_eq_zero,
      List.isEmpty_iff_length_eq_zero, hlength]
  have hlisted (standard : Option String) :
      s.profiles.rows.map (fun r => r.2.listed false standard r.1) =
        t.profiles.rows.map fun r => r.2.listed false standard r.1 := by
    rw [← List.forall₂_eq_eq_eq, List.forall₂_map_left_iff, List.forall₂_map_right_iff]
    refine h.profiles.imp fun r r' ⟨hname, haccount, hregion, hkey⟩ => ?_
    rw [Profile.listed, Profile.listed, hname, haccount, hregion, Profile.maskedKey_eq_iff.2 hkey]
    rfl
  rw [htext s, htext t, hempty, resolve_names h.default h.names, hlength]
  simp only [hlisted]

end ProfileStore

/-! ## Runs of the program -/

/-- What is printed of an output. -/
def Output.printed? : Output → Option String
  | stdout text => some text
  | _ => none

open CommandLine

namespace Program

/-- What a run says about itself is the same on every machine. -/
theorem exists_introduction (words : List String) (verbosity : Nat) :
    ∃ said, ∀ (task : Action Machine Unit) (m : Machine),
      (introduce words verbosity >>= fun _ => task) m =
        ⟨(task m).value, said ++ (task m).log, (task m).world⟩ :=
  ⟨(introduce words verbosity default).log, fun _ _ => rfl⟩

/-- A message is not printed. -/
theorem printed_shown_message (filter : Log.Filter) (verbosity : Nat) (said : Message) :
    (shown filter verbosity (.message said)).bind Output.printed? = none := by
  rw [shown]
  split <;> rfl

/-- Nothing is printed of what is said while the profiles are read. -/
theorem printed_readingLog (filter : Log.Filter) (verbosity : Nat) (folder : String) (m : Machine) :
    ((readingLog folder m).filterMap (shown filter verbosity)).filterMap Output.printed? = [] := by
  rw [readingLog, ProfileStore.load_eq, List.filterMap_filterMap]
  split
  · rfl
  · rw [List.filterMap_cons, printed_shown_message, List.filterMap_nil]

end Program

/-- A listing shows its text, or fails, and leaves the machine as it is. -/
theorem ProfileStore.showListing_eq (s : ProfileStore) (showKeys : Bool) (folder : String)
    (m : Machine) : s.showListing showKeys folder m =
      ⟨(s.listing (Files.join folder Configuration.profilesName) showKeys).map fun _ => (),
        (s.listing (Files.join folder Configuration.profilesName) showKeys).toOption.toList.map
          Output.stdout, m⟩ := by
  unfold showListing
  cases s.listing (Files.join folder Configuration.profilesName) showKeys <;> rfl

/-- A run that lists profiles shows what it says about itself, what is said while the profiles are
read, and then the listing, or the failure of this. -/
theorem Program.run_listing {words : List String} {m : Machine} {i : Invocation} {showKeys : Bool}
    {folder : String} {s : ProfileStore} (hi : Invocation.ofWords m.valueOf? words = .ok i)
    (htask : i.task = .profiles showKeys) (hreads : ReadsProfiles i.configFolder m folder s)
    {said : List Output} (hsaid : ∀ (task : Action Machine Unit) (m : Machine),
      (introduce words i.verbosity >>= fun _ => task) m =
        ⟨(task m).value, said ++ (task m).log, (task m).world⟩) :
    let listed := s.listing (Files.join folder Configuration.profilesName) showKeys
    let filter := Log.Filter.chosen (m.valueOf? Log.Filter.variableName) i.verbosity
    run words m =
      ((said ++ (readingLog folder m ++ listed.toOption.toList.map Output.stdout)).filterMap
          (shown filter i.verbosity) ++
        (match listed.map fun _ => () with
        | .ok () => []
        | .error e => [.stderr ("Error: " ++ e.message)]),
        .ended (listed.map fun _ => ()), m) := by
  intro listed filter
  have hperform : i.perform m =
      ⟨listed.map fun _ => (),
        readingLog folder m ++ listed.toOption.toList.map Output.stdout, m⟩ := by
    rw [Invocation.perform, htask]
    change listProfiles showKeys i.configFolder m = _
    rw [listProfiles_eq, withProfiles_of_reads hreads, ProfileStore.showListing_eq]
  unfold run
  rw [hi]
  change (((introduce words i.verbosity >>= fun _ => i.perform) m).log.filterMap _ ++ _, _, _) = _
  simp only [hsaid, hperform]
  rfl

/-- Of a key that is set, only the last four characters are shown and, up to eight, how many come
before these: keys are shown alike just if they look alike, and if the last four characters are the
same, neither those before them matter, nor how many they are once they are eight. So stores that
look alike have the same listing without their keys, and if such stores are in the files of two
machines that are the same else, runs that list them end alike and print the same. They say the
same as well, unless only one of the stores is there because it has no file. -/
theorem ProfileStore.listing_masked :
    (∀ k l, Profile.maskedKey k = Profile.maskedKey l ↔ Profile.LookAlike k l) ∧
    (∀ before before' ending : List Char, ending.length = 4 →
      before.length = before'.length ∨ 8 ≤ before.length ∧ 8 ≤ before'.length →
      Profile.LookAlike (String.ofList (before ++ ending)) (String.ofList (before' ++ ending))) ∧
    (∀ s t : ProfileStore, s.LookAlike t → ∀ path, s.listing path false = t.listing path false) ∧
    ∀ (words : List String) (m : Machine) (disk : Files.Disk) (i : Invocation) (folder : String)
        (s t : ProfileStore),
      Invocation.ofWords m.valueOf? words = .ok i → i.task = .profiles false →
      ReadsProfiles i.configFolder m folder s →
      ReadsProfiles i.configFolder { m with disk } folder t → s.LookAlike t →
      let run := Program.run words m
      let run' := Program.run words { m with disk }
      run'.2.1 = run.2.1 ∧ run'.1.filterMap Output.printed? = run.1.filterMap Output.printed? ∧
      (disk.exists? (Files.join folder Configuration.profilesName) =
          m.disk.exists? (Files.join folder Configuration.profilesName) → run'.1 = run.1) := by
  refine ⟨fun _ _ => Profile.maskedKey_eq_iff, fun _ _ _ => Profile.lookAlike_append,
    fun _ _ => listing_congr, fun words m disk i folder s t hi htask hs ht halike => ?_⟩
  intro run run'
  obtain ⟨said, hsaid⟩ := Program.exists_introduction words i.verbosity
  have hrun : run = _ := Program.run_listing hi htask hs hsaid
  have hi' : Invocation.ofWords ({ m with disk } : Machine).valueOf? words = .ok i := hi
  have hrun' : run' = _ := Program.run_listing hi' htask ht hsaid
  rw [← listing_congr halike] at hrun'
  rw [hrun, hrun']
  refine ⟨rfl, ?_, fun hexists => ?_⟩
  · simp only [List.filterMap_append, Program.printed_readingLog]
    rfl
  · have hreading : readingLog folder { m with disk } = readingLog folder m := by
      rw [readingLog, readingLog, load_eq, load_eq]
      change (if disk.exists? _ then _ else _ : Outcome ..).log = _
      rw [hexists]
      split <;> rfl
    rw [hreading]
    rfl

/-- A machine with a profile that has a key. -/
def machineWithKey (key : String) : Machine :=
  { (default : Machine) with
    disk := { (default : Machine).disk with
      root := .folder [("profiles.yaml", .file (Text.bytesOf
        ("profiles:\n  a:\n    accountId: 7\n    apiKey: " ++ key ++ "\n")))] } }

/-- The profile, as it is stored. -/
def storeWithKey (key : String) : ProfileStore :=
  ⟨none, ⟨[("a", ⟨7, key, .us⟩)], List.pairwise_singleton ..⟩⟩

/-- Keys of thirteen and of seventeen characters are shown alike. -/
theorem ProfileStore.listing_masked_longer :
    (Program.run ["profiles", "--config-dir", "/"] (machineWithKey "anothersecretabcd")).1 =
      (Program.run ["profiles", "--config-dir", "/"] (machineWithKey "secretkeyabcd")).1 := by
  have hshort : ReadsProfiles (some "/") (machineWithKey "secretkeyabcd") "/"
      (storeWithKey "secretkeyabcd") :=
    ⟨rfl, by decide +kernel⟩
  have hlong : ReadsProfiles (some "/") (machineWithKey "anothersecretabcd") "/"
      (storeWithKey "anothersecretabcd") :=
    ⟨rfl, by decide +kernel⟩
  have halike : (storeWithKey "secretkeyabcd").LookAlike (storeWithKey "anothersecretabcd") :=
    ⟨rfl, .cons ⟨rfl, rfl, rfl, .inr (by decide +kernel)⟩ .nil⟩
  exact (listing_masked.2.2.2 ["profiles", "--config-dir", "/"] (machineWithKey "secretkeyabcd")
    (machineWithKey "anothersecretabcd").disk ⟨none, some "/", 0, .profiles false⟩ "/" _ _
    (by decide +kernel) rfl hshort hlong halike).2.2 (by decide +kernel)

end Provision
