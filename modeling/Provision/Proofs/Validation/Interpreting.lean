import Provision.Proofs.Json.Fields
import Provision.Proofs.Json.Number
import Provision.Validation

/-!
# What an answer shows

An answer to a query is an object or an array (`Validation.Reply.IsIn`); what holds no answer is
refused. Errors in an answer count before its data, and of the data only the first row of the
results matters: its count says whether there is data, and it may name an entity
(`Validation.ofResponse_answers`).
-/

namespace Provision

open Json (Value Number)

namespace Validation

variable {v w : Value} {r s : Reply}

/-! ## Answers -/

/-- A value is an error with a message: an object with it, or an array of just it. -/
inductive IsError : Value → String → Prop
  | object {ms : List (String × Value)} {message : String}
      (h : (Value.object ms).member? "message" = some (.string message)) :
      IsError (.object ms) message
  | array (message : String) : IsError (.array [.string message]) message

/-- The errors of an answer: none are given, or a list of them. -/
inductive AreErrors : Option Value → List String → Prop
  | absent : AreErrors none []
  | list {vs : List Value} {messages : List String} (h : List.Forall₂ IsError vs messages) :
      AreErrors (some (.array vs)) messages

/-- A value is an answer: an object with data and errors as members, or an array of the data and
the errors, which may be left out. -/
inductive Reply.IsIn : Value → Reply → Prop
  | object {ms : List (String × Value)} {messages : List String}
      (h : AreErrors ((Value.object ms).member? "errors") messages) :
      IsIn (.object ms) ⟨((Value.object ms).member? "data").bind Json.notNull, messages⟩
  | dataOnly (data : Value) : IsIn (.array [data]) ⟨Json.notNull data, []⟩
  | array (data : Value) {errors : Value} {messages : List String}
      (h : AreErrors (some errors) messages) :
      IsIn (.array [data, errors]) ⟨Json.notNull data, messages⟩

/-- The error of an object is the text of its message. -/
theorem readError_object (ms : List (String × Value)) : readError (.object ms) =
    ((Value.object ms).member? "message").bind Value.text? :=
  Json.format_required _

/-- A value is read as an error if it is one. -/
theorem readError_eq_some {message : String} :
    readError v = some message ↔ IsError v message := by
  cases v with
  | object ms =>
    rw [readError_object]
    constructor
    · intro h
      obtain ⟨w, hw, htext⟩ := Option.bind_eq_some_iff.1 h
      exact .object (Json.text?_eq_some.1 htext ▸ hw)
    · rintro (h | _)
      rw [h]
      rfl
  | array vs =>
    match vs with
    | [] => exact ⟨nofun, nofun⟩
    | [w] =>
      have hread : readError (.array [w]) = w.text? := rfl
      rw [hread, Json.text?_eq_some]
      constructor
      · rintro rfl
        exact .array message
      · rintro (_ | _)
        rfl
    | _ :: _ :: _ => exact ⟨nofun, nofun⟩
  | _ => exact ⟨nofun, nofun⟩

/-- The errors of an answer are read if they are errors. -/
theorem readErrors_eq_some {o : Option Value} {messages : List String} :
    orDefault [] (Json.format.list readError) o = some messages ↔ AreErrors o messages := by
  cases o with
  | none =>
    constructor
    · rintro ⟨⟩
      exact .absent
    · rintro (_ | _)
      rfl
  | some v =>
    have hread : orDefault [] (Json.format.list readError) (some v) =
        Json.format.list readError v := rfl
    rw [hread, Json.format_list]
    simp only [readError_eq_some]
    constructor
    · rintro ⟨vs, rfl, h⟩
      exact .list h
    · rintro (_ | h)
      exact ⟨_, rfl, h⟩

/-- An answer is read from a value just if the value is that answer. -/
theorem Reply.ofJson?_eq_some : Reply.ofJson? v = some r ↔ Reply.IsIn v r := by
  have read (data errors : Option Value) :
      ((Json.format.optional some data).bind fun data =>
        (orDefault [] (Json.format.list readError) errors).bind fun errors =>
          some (Reply.mk data errors)) = some r ↔
        ∃ messages, AreErrors errors messages ∧ r = ⟨data.bind Json.notNull, messages⟩ := by
    rw [Json.format_optional_some, Option.bind_some, Option.bind_eq_some_iff]
    exact exists_congr fun messages => and_congr readErrors_eq_some
      ⟨fun h => (Option.some.inj h).symm, fun h => congrArg some h.symm⟩
  cases v with
  | object ms =>
    refine (read ((Value.object ms).member? "data") ((Value.object ms).member? "errors")).trans ?_
    constructor
    · rintro ⟨messages, h, rfl⟩
      exact .object h
    · intro h
      cases h with
      | object h => exact ⟨_, h, rfl⟩
  | array vs =>
    match vs with
    | [] => exact ⟨nofun, nofun⟩
    | [data] =>
      refine (read (some data) none).trans ?_
      constructor
      · rintro ⟨_, ⟨⟩, rfl⟩
        exact .dataOnly data
      · rintro ⟨⟩
        exact ⟨[], .absent, rfl⟩
    | [data, errors] =>
      refine (read (some data) (some errors)).trans ?_
      constructor
      · rintro ⟨_, h, rfl⟩
        exact .array data h
      · intro h
        cases h with
        | array _ h => exact ⟨_, h, rfl⟩
    | _ :: _ :: _ :: _ => exact ⟨nofun, nofun⟩
  | _ => exact ⟨nofun, nofun⟩

/-- A value is at most one answer. -/
theorem Reply.IsIn.unique (hr : Reply.IsIn v r) (hs : Reply.IsIn v s) : r = s :=
  Option.some.inj ((Reply.ofJson?_eq_some.2 hr).symm.trans (Reply.ofJson?_eq_some.2 hs))

/-! ## Rows -/

/-- Where the rows are in the data of an answer. -/
def resultsPath : List String := ["actor", "account", "nrql", "results"]

/-- The rows of an answer. -/
def Reply.Results (r : Reply) (rows : List Value) : Prop :=
  (r.data.bind (Value.at? resultsPath)) = some (.array rows)

/-- The rows of an answer are those in its data. -/
theorem Reply.rows?_eq_some {rows : List Value} : r.rows? = some rows ↔ r.Results rows := by
  have items {v : Value} : v.items? = some rows ↔ v = .array rows := by
    cases v <;> simp [Value.items?]
  have hrows : r.rows? = (r.data.bind (Value.at? resultsPath)).bind Value.items? := by
    unfold rows?
    cases r.data <;> simp [Value.at?, resultsPath, Option.bind_assoc]
  rw [hrows, Option.bind_eq_some_iff, Results]
  simp only [items, exists_eq_right]

/-- A member of the first row. -/
def firstMember (rows : List Value) (name : String) : Option Value :=
  rows.head?.bind (·.member? name)

/-- The rows name an entity, which is empty if the first one names none. -/
def NameEntity (rows : List Value) (entity : String) : Prop :=
  firstMember rows "entityGuid" = some (.string entity) ∨
    entity = "" ∧ ∀ named, firstMember rows "entityGuid" ≠ some (.string named)

/-- What rows show. -/
def shown (rows : List Value) : Validation :=
  rows.head?.elim unconfirmed fun row => ⟨countsData row, entityOf row⟩

/-- Rows show data if the first one has a count above the least number. -/
theorem shown_confirmed (rows : List Value) : (shown rows).confirmed = true ↔
    ∃ n, firstMember rows "count" = some (.number n) ∧ Number.underflow < n.toRat := by
  match rows with
  | [] => exact ⟨nofun, nofun⟩
  | row :: _ =>
    change countsData row = true ↔ ∃ n, row.member? "count" = some (.number n) ∧ _
    unfold countsData
    split
    case h_1 n h =>
      simp only [h, Number.isPositive_iff, Option.some.injEq, Value.number.injEq,
        exists_eq_left']
    case h_2 h => exact ⟨nofun, fun ⟨n, hn, _⟩ => absurd hn (h n)⟩

/-- Rows show the entity that the first one names. -/
theorem shown_entity (rows : List Value) : NameEntity rows (shown rows).entity := by
  match rows with
  | [] => exact .inr ⟨rfl, nofun⟩
  | row :: _ =>
    change row.member? "entityGuid" = some (.string (entityOf row)) ∨
      entityOf row = "" ∧ ∀ named, row.member? "entityGuid" ≠ some (.string named)
    unfold entityOf
    cases h : (row.member? "entityGuid").bind Value.text? with
    | some named =>
      obtain ⟨w, hw, htext⟩ := Option.bind_eq_some_iff.1 h
      exact .inl (hw.trans (congrArg some (Json.text?_eq_some.1 htext)))
    | none =>
      refine .inr ⟨rfl, fun named hnamed => ?_⟩
      rw [hnamed] at h
      cases h

/-- The entity that rows name is unique. -/
theorem NameEntity.unique {rows : List Value} {e f : String} (he : NameEntity rows e)
    (hf : NameEntity rows f) : e = f := by
  obtain he | ⟨rfl, he⟩ := he <;> obtain hf | ⟨rfl, hf⟩ := hf
  · exact Value.string.inj (Option.some.inj (he.symm.trans hf))
  · exact absurd he (hf e)
  · exact absurd hf (he f)
  · rfl

/-- What rows show is decided by the count and the entity of the first one. -/
theorem shown_eq_iff {rows : List Value} {x : Validation} : shown rows = x ↔
    (x.confirmed = true ↔
      ∃ n, firstMember rows "count" = some (.number n) ∧ Number.underflow < n.toRat) ∧
    NameEntity rows x.entity := by
  constructor
  · rintro rfl
    exact ⟨shown_confirmed rows, shown_entity rows⟩
  · rintro ⟨hconfirmed, hentity⟩
    obtain ⟨confirmed, entity⟩ := x
    have hc : (shown rows).confirmed = confirmed :=
      Bool.eq_iff_iff.2 ((shown_confirmed rows).trans hconfirmed.symm)
    have he : (shown rows).entity = entity := (shown_entity rows).unique hentity
    rw [← hc, ← he]

/-! ## What is made of an answer -/

/-- A value that is no answer is refused. -/
theorem ofResponse_of_none (h : ∀ r, ¬ Reply.IsIn v r) :
    ofResponse v = .error (.malformed unknownSource notThisRecord) := by
  have hread : Reply.ofJson? v = none :=
    Option.eq_none_iff_forall_ne_some.2 fun r hr => h r (Reply.ofJson?_eq_some.1 hr)
  rw [ofResponse, hread]

/-- An answer with errors fails with the message of the first. -/
theorem ofResponse_of_error {message : String} {rest : List String} (h : Reply.IsIn v r)
    (he : r.errors = message :: rest) : ofResponse v = .error (.validation message) := by
  simp only [ofResponse, Reply.ofJson?_eq_some.2 h, he]

/-- An answer without errors fails if it has no rows. -/
theorem ofResponse_of_missing (h : Reply.IsIn v r) (he : r.errors = [])
    (hrows : ∀ rows, ¬ r.Results rows) :
    ofResponse v = .error (.validation "response did not contain query results") := by
  have hread : r.rows? = none := Option.eq_none_iff_forall_ne_some.2 fun rows hr =>
    hrows rows (Reply.rows?_eq_some.1 hr)
  simp only [ofResponse, Reply.ofJson?_eq_some.2 h, he, hread]

/-- An answer without errors shows what its rows show. -/
theorem ofResponse_of_results {rows : List Value} (h : Reply.IsIn v r) (he : r.errors = [])
    (hrows : r.Results rows) : ofResponse v = .ok (shown rows) := by
  simp only [ofResponse, Reply.ofJson?_eq_some.2 h, he, Reply.rows?_eq_some.2 hrows]
  cases rows <;> rfl

/-- What is known of a response: no answer, an error, no results, or rows. -/
theorem ofResponse_cases (v : Value) :
    (∀ r, ¬ Reply.IsIn v r) ∨
    (∃ r message rest, Reply.IsIn v r ∧ r.errors = message :: rest) ∨
    (∃ r, Reply.IsIn v r ∧ r.errors = [] ∧ ∀ rows, ¬ r.Results rows) ∨
    ∃ r rows, Reply.IsIn v r ∧ r.errors = [] ∧ r.Results rows := by
  by_cases hr : ∃ r, Reply.IsIn v r
  · obtain ⟨r, hr⟩ := hr
    cases he : r.errors with
    | cons message rest => exact .inr (.inl ⟨r, message, rest, hr, he⟩)
    | nil =>
      by_cases hrows : ∃ rows, r.Results rows
      · obtain ⟨rows, hrows⟩ := hrows
        exact .inr (.inr (.inr ⟨r, rows, hr, he, hrows⟩))
      · exact .inr (.inr (.inl ⟨r, hr, he, not_exists.1 hrows⟩))
  · exact .inl (not_exists.1 hr)

/-- A value shows something just if it is an answer with rows and without errors. -/
theorem ofResponse_eq_ok {x : Validation} : ofResponse v = .ok x ↔
    ∃ r rows, Reply.IsIn v r ∧ r.errors = [] ∧ r.Results rows ∧
      (x.confirmed = true ↔
        ∃ n, firstMember rows "count" = some (.number n) ∧ Number.underflow < n.toRat) ∧
      NameEntity rows x.entity := by
  constructor
  · intro h
    obtain hr | ⟨r, m, ms, hr, he⟩ | ⟨r, hr, he, hrows⟩ | ⟨r, rows, hr, he, hrows⟩ :=
      ofResponse_cases v
    · cases (ofResponse_of_none hr).symm.trans h
    · cases (ofResponse_of_error hr he).symm.trans h
    · cases (ofResponse_of_missing hr he hrows).symm.trans h
    · have hx : shown rows = x := Except.ok.inj ((ofResponse_of_results hr he hrows).symm.trans h)
      exact ⟨r, rows, hr, he, hrows, shown_eq_iff.1 hx⟩
  · rintro ⟨r, rows, hr, he, hrows, hx⟩
    rw [ofResponse_of_results hr he hrows, shown_eq_iff.2 hx]

/-- A value fails in one of three ways: it is no answer, it has errors, or it has no rows. -/
theorem ofResponse_eq_error {e : Failure} : ofResponse v = .error e ↔
    ((∀ r, ¬ Reply.IsIn v r) ∧ e = .malformed unknownSource notThisRecord) ∨
    (∃ r message rest, Reply.IsIn v r ∧ r.errors = message :: rest ∧
      e = .validation message) ∨
    (∃ r, Reply.IsIn v r ∧ r.errors = [] ∧ (∀ rows, ¬ r.Results rows) ∧
      e = .validation "response did not contain query results") := by
  constructor
  · intro h
    obtain hr | ⟨r, m, ms, hr, he⟩ | ⟨r, hr, he, hrows⟩ | ⟨r, rows, hr, he, hrows⟩ :=
      ofResponse_cases v
    · exact .inl ⟨hr, Except.error.inj (h.symm.trans (ofResponse_of_none hr))⟩
    · exact .inr (.inl ⟨r, m, ms, hr, he,
        Except.error.inj (h.symm.trans (ofResponse_of_error hr he))⟩)
    · exact .inr (.inr ⟨r, hr, he, hrows,
        Except.error.inj (h.symm.trans (ofResponse_of_missing hr he hrows))⟩)
    · cases (ofResponse_of_results hr he hrows).symm.trans h
  · rintro (⟨hr, rfl⟩ | ⟨r, m, ms, hr, he, rfl⟩ | ⟨r, hr, he, hrows, rfl⟩)
    · exact ofResponse_of_none hr
    · exact ofResponse_of_error hr he
    · exact ofResponse_of_missing hr he hrows

/-- Rows with the same count and entity in front show the same. -/
theorem shown_congr {rows rows' : List Value}
    (hcount : firstMember rows "count" = firstMember rows' "count")
    (hentity : firstMember rows "entityGuid" = firstMember rows' "entityGuid") :
    shown rows = shown rows' := by
  refine shown_eq_iff.2 ⟨hcount ▸ shown_confirmed rows', ?_⟩
  have hnamed := shown_entity rows'
  rwa [NameEntity, ← hentity] at hnamed

/-- Answers show the same if their first errors and the first members of their rows are the same. -/
theorem ofResponse_congr (hr : Reply.IsIn v r) (hs : Reply.IsIn w s)
    (herrors : r.errors.head? = s.errors.head?)
    (hresults : (∃ rows, r.Results rows) ↔ ∃ rows, s.Results rows)
    (hfirst : ∀ rows rows', r.Results rows → s.Results rows' →
      firstMember rows "count" = firstMember rows' "count" ∧
      firstMember rows "entityGuid" = firstMember rows' "entityGuid") :
    ofResponse v = ofResponse w := by
  cases he : r.errors with
  | cons m ms =>
    rw [he, List.head?_cons] at herrors
    obtain ⟨rest, he'⟩ := List.head?_eq_some_iff.1 herrors.symm
    rw [ofResponse_of_error hr he, ofResponse_of_error hs he']
  | nil =>
    rw [he, List.head?_nil] at herrors
    have he' : s.errors = [] := List.head?_eq_none_iff.1 herrors.symm
    by_cases hrows : ∃ rows, r.Results rows
    · obtain ⟨rows', hrows'⟩ := hresults.1 hrows
      obtain ⟨rows, hrows⟩ := hrows
      obtain ⟨hcount, hentity⟩ := hfirst rows rows' hrows hrows'
      rw [ofResponse_of_results hr he hrows, ofResponse_of_results hs he' hrows',
        shown_congr hcount hentity]
    · rw [ofResponse_of_missing hr he (not_exists.1 hrows),
        ofResponse_of_missing hs he' (not_exists.1 (hresults.not.1 hrows))]

/-- A response shows data just if it is an answer without errors whose results start with a row
that counts something; it shows nothing yet if the results are empty or their first row counts
nothing. What is not an answer is malformed; an answer with errors fails with the first, and one
without results fails. Nothing else in a response matters. -/
theorem ofResponse_answers (v : Value) :
    (∀ x, ofResponse v = .ok x ↔ ∃ r rows, Reply.IsIn v r ∧ r.errors = [] ∧ r.Results rows ∧
      (x.confirmed = true ↔
        ∃ n, firstMember rows "count" = some (.number n) ∧ Number.underflow < n.toRat) ∧
      NameEntity rows x.entity) ∧
    (∀ e, ofResponse v = .error e ↔
      ((∀ r, ¬ Reply.IsIn v r) ∧ e = .malformed unknownSource notThisRecord) ∨
      (∃ r message rest, Reply.IsIn v r ∧ r.errors = message :: rest ∧
        e = .validation message) ∨
      (∃ r, Reply.IsIn v r ∧ r.errors = [] ∧ (∀ rows, ¬ r.Results rows) ∧
        e = .validation "response did not contain query results")) ∧
    (∀ w r s, Reply.IsIn v r → Reply.IsIn w s → r.errors.head? = s.errors.head? →
      ((∃ rows, r.Results rows) ↔ ∃ rows, s.Results rows) →
      (∀ rows rows', r.Results rows → s.Results rows' →
        firstMember rows "count" = firstMember rows' "count" ∧
        firstMember rows "entityGuid" = firstMember rows' "entityGuid") →
      ofResponse v = ofResponse w) :=
  ⟨fun _ => ofResponse_eq_ok, fun _ => ofResponse_eq_error,
    fun _ _ _ hr hs => ofResponse_congr hr hs⟩

end Validation

end Provision
