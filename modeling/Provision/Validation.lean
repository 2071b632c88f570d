import Provision.Recipe.Record
import Provision.Machine
import Provision.Profile.Basic

/-!
# Validation

After a recipe ran, its query is asked until it shows data for the host. `Validation.ofResponse`
reads the answer to one query; `Validation.run` asks again until data is confirmed or the attempts
are used up. `askServer` is how a query is asked for a profile.
-/

namespace Provision

open Json (Value)

/-- What is known after a query was answered: whether there is data, and the entity it belongs to,
which is empty if the answer names none. -/
structure Validation where
  confirmed : Bool
  entity : String
  deriving Repr, DecidableEq, Inhabited

namespace Validation

/-- Nothing is known. -/
def unconfirmed : Validation := ⟨false, ""⟩

/-- An answer to a query: its data, if any, and the messages of its errors. -/
structure Reply where
  data : Option Value
  errors : List String

/-- Reads an error of an answer. -/
def readError (v : Value) : Option String := do
  match ← Json.format.fields [⟨"message", .required⟩] v with
  | [message] => Json.format.required Value.text? message
  | _ => none

/-- Reads an answer. -/
def Reply.ofJson? (v : Value) : Option Reply := do
  match ← Json.format.fields [⟨"data", .optional⟩, ⟨"errors", .defaulted⟩] v with
  | [data, errors] =>
    let data ← Json.format.optional some data
    let errors ← orDefault [] (Json.format.list readError) errors
    return ⟨data, errors⟩
  | _ => none

/-- The rows in the data of an answer. -/
def Reply.rows? (r : Reply) : Option (List Value) := do
  let actor ← (← r.data).member? "actor"
  let account ← actor.member? "account"
  let nrql ← account.member? "nrql"
  (← nrql.member? "results").items?

/-- Whether a row counts something. -/
def countsData (row : Value) : Bool :=
  match row.member? "count" with
  | some (.number n) => n.isPositive
  | _ => false

/-- The entity a row names. -/
def entityOf (row : Value) : String := ((row.member? "entityGuid").bind Value.text?).getD ""

/-- What an answer shows: its first error counts before its data, and of the rows only the first
one is looked at. -/
def ofResponse (v : Value) : Except Failure Validation :=
  match Reply.ofJson? v with
  | none => .error (.malformed unknownSource notThisRecord)
  | some r =>
    match r.errors with
    | message :: _ => .error (.validation message)
    | [] =>
      match r.rows? with
      | none => .error (.validation "response did not contain query results")
      | some [] => .ok unconfirmed
      | some (row :: _) => .ok ⟨countsData row, entityOf row⟩

/-- The query for a host: its name stands where the query says so. -/
def renderQuery (query : String) (h : Host) : String :=
  Text.replaceAll "\x7bHOSTNAME\x7d" h.hostname query

/-- How often and how patiently a query is asked. -/
structure Patience where
  attempts : Nat
  pauseMs : Nat

/-- Sleeps, unless the run is interrupted. -/
def pause (milliseconds : Nat) : Action Machine Unit := fun m =>
  let (r, i) := m.interrupt.sleep (Interrupt.slices milliseconds)
  ⟨r, [], { m with interrupt := i }⟩

/-- Asks up to `left` more times, after `last` was known; `number` counts the attempts from 1. -/
def attempts (ask : String → Action Machine Validation) (recipe query : String)
    (pauseMs : Nat) (number : Nat) (last : Validation) : Nat → Action Machine Validation
  | 0 => pure last
  | left + 1 => do
    Machine.check
    let found ← ask query
    Action.say .debug .validation "Validation attempt"
      [("recipe", recipe), ("attempt", toString number), ("confirmed", toString found.confirmed)]
    if found.confirmed then return found
    if 0 < left then pause pauseMs
    attempts ask recipe query pauseMs (number + 1) found left

/-- Validates a recipe on a host with the questions a profile may ask. -/
def run (p : Profile) (patience : Patience) (ask : String → Action Machine Validation)
    (h : Host) (r : Recipe) : Action Machine Validation := do
  if p.apiKey = "" then
    Work.fail (.profile "an API key is required to validate recipe data")
  attempts ask r.name (renderQuery r.query h) patience.pauseMs 1 unconfirmed patience.attempts

/-! ## Servers -/

/-- What a server is asked: the address that the question goes to, the key that comes with it, and
its body. -/
structure Inquiry where
  address : String
  key : String
  body : Value

/-- The question for the results of a query of an account. -/
def resultsQuery : String :=
  "query($accountId: Int!, $nrql: Nrql!) \x7b actor \x7b account(id: $accountId) \x7b " ++
    "nrql(query: $nrql) \x7b results \x7d \x7d \x7d \x7d"

/-- The body of the question for the results of a query. -/
def Inquiry.bodyFor (accountId : Nat) (query : String) : Value :=
  .object [("query", .string resultsQuery),
    ("variables", .object [("accountId", .number (.integer accountId)), ("nrql", .string query)])]

/-- A query of a profile, as it is asked. -/
def Inquiry.of (p : Profile) (query : String) : Inquiry :=
  ⟨p.region.endpoint, p.apiKey, bodyFor p.accountId query⟩

/-- The servers: what they answer to a question, which need not reach them. They change no files of
the machine that asks. -/
structure Server where
  answer : Inquiry → Action Machine (Option Response)
  keepsDisk : ∀ i m, (answer i m).world.disk = m.disk

/-- Servers that no question reaches. -/
def Server.unreachable : Server := ⟨fun _ => pure none, fun _ _ => rfl⟩

/-- Asks the servers a query of a profile. -/
def askServer (server : Server) (p : Profile) (query : String) : Action Machine Validation := do
  match ← server.answer (.of p query) with
  | none => Work.fail (.ofUnsent p.region.endpoint)
  | some r =>
    match r.statusError? with
    | some problem => Work.fail (.request problem)
    | none =>
      match (Text.ofBytes? r.body).bind Value.ofText? with
      | none => Work.fail (.request "error decoding response body")
      | some v => Work.ofExcept (ofResponse v)

/-- Asks a query of a region's server, which no answer comes from. -/
def askNetwork (region : Region) (_query : String) : Action Machine Validation :=
  Work.fail (.ofUnsent region.endpoint)

/-- No answer comes from servers that are not reached. -/
theorem askServer_unreachable (p : Profile) :
    askServer .unreachable p = askNetwork p.region := rfl

end Validation

end Provision
