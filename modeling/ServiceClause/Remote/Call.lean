import ServiceClause.Results.Document

/-!
# Calls to an endpoint

A call is the text of a query and the conditions under which it is sent. Whatever answers calls is a
service: what it answers may depend on all that it has been asked before, and the answer may take
some time to arrive.

## Main definitions

* `ServiceClause.Call` — what is sent to an endpoint.
* `ServiceClause.Delayed` — an answer and how long it takes to arrive.
* `ServiceClause.Delayed.within` — what the caller gets if it stops waiting after some time.
* `ServiceClause.Service` — what answers calls.
* `ServiceClause.Service.recording` — a service that remembers its calls.
-/

set_option autoImplicit false

namespace ServiceClause

/-- What a query asks for. -/
inductive QueryForm where
  /-- Rows. -/
  | select
  /-- A truth value. -/
  | ask
deriving DecidableEq, Repr

/-- What is sent to an endpoint. -/
structure Call where
  /-- What the query asks for. -/
  form : QueryForm
  /-- The text of the query. -/
  query : String
  /-- The IRI that relative IRIs are resolved against. -/
  base? : Option String
  /-- The time that the answer may take. -/
  budget? : Option Duration
deriving DecidableEq, Repr

/-- The outcome of an operation that may fail. -/
abbrev Outcome (α : Type) := Except FederationError α

/-- A value that arrives after some time. -/
structure Delayed (α : Type) where
  /-- The time until it arrives. -/
  delay : Duration
  /-- What arrives. -/
  value : α

namespace Delayed

variable {α : Type}

/-- A value that is there at once. -/
def now (a : α) : Delayed α := ⟨.zero, a⟩

/-- What arrives if the caller waits no longer than its budget. -/
def within (a : Delayed (Outcome α)) : Option Duration → Delayed (Outcome α)
  | none => a
  | some budget => if budget < a.delay then ⟨budget, .error (.timeout budget)⟩ else a

end Delayed

/-- What answers calls. Its states say what it remembers. -/
structure Service (σ : Type) where
  /-- Answers a query for rows. -/
  select : Call → σ → Delayed (Outcome Solutions) × σ
  /-- Answers a query for a truth value. -/
  ask : Call → σ → Delayed (Outcome Bool) × σ

namespace Service

variable {σ : Type}

/-- The service that also remembers all calls in their order. -/
def recording (service : Service σ) : Service (σ × List Call) where
  select call s :=
    ((service.select call s.1).1, ((service.select call s.1).2, s.2 ++ [call]))
  ask call s :=
    ((service.ask call s.1).1, ((service.ask call s.1).2, s.2 ++ [call]))

end Service

end ServiceClause
