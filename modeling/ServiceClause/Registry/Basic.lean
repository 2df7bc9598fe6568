import ServiceClause.NameSet
import ServiceClause.Remote.Call

/-!
# The registry of clients

A registry holds at most one client for each endpoint. It makes a client when one is asked for and
none is there, initializes it before it is handed out, and shuts it down when it is removed. All
clients that it has ever held are remembered, with the number of times that they were initialized
and shut down.

## Main definitions

* `ServiceClause.Lifecycle` — how clients are initialized and shut down.
* `ServiceClause.Factory` — how clients are made.
* `ServiceClause.Registry` — the registered clients.
* `ServiceClause.Registry.register`, `unregister`, `unregisterAll`, `setFactory` — the operations
  that need not wait.
-/

set_option autoImplicit false

namespace ServiceClause

/-- How clients of type `κ` are initialized and shut down. -/
structure Lifecycle (κ : Type) where
  /-- Prepares a client, which may take some time and may fail. -/
  prepare : κ → Delayed (Outcome Unit) × κ
  /-- Releases a client. -/
  shutdown : κ → Outcome Unit × κ

/-! ## Making clients -/

/-- A rule by which a client is made. -/
structure FactoryRule (κ : Type) where
  /-- The endpoint that the rule is for; every endpoint if there is none. -/
  endpoint? : Option String
  /-- How often the rule may still be used. -/
  uses? : Option Nat
  /-- Makes the client for an endpoint, or fails. -/
  make : String → Outcome κ

/-- Whether a rule makes the client for an endpoint. -/
def FactoryRule.fits {κ : Type} (rule : FactoryRule κ) (endpoint : String) : Bool :=
  rule.uses? != some 0 && rule.endpoint?.all (· == endpoint)

/-- How clients are made: by the first rule that fits and is not used up. -/
structure Factory (κ : Type) where
  /-- The rules. -/
  rules : List (FactoryRule κ)
  /-- Makes the client for an endpoint that no rule fits. -/
  otherwise : String → κ

namespace Factory

variable {κ : Type}

/-- Makes a client by the first of some rules that fits, and gives the rules after that. -/
def apply (endpoint : String) : List (FactoryRule κ) → Option (Outcome κ) × List (FactoryRule κ)
  | [] => (none, [])
  | rule :: rest =>
    if rule.fits endpoint then
      (some (rule.make endpoint), { rule with uses? := rule.uses?.map (· - 1) } :: rest)
    else ((apply endpoint rest).1, rule :: (apply endpoint rest).2)

/-- Makes the client for an endpoint, and gives the factory after that. -/
def create (f : Factory κ) (endpoint : String) : Outcome κ × Factory κ :=
  ((apply endpoint f.rules).1.getD (.ok (f.otherwise endpoint)),
    { f with rules := (apply endpoint f.rules).2 })

end Factory

/-! ## The registry -/

/-- The position of a client among all clients that a registry has ever held. -/
abbrev ClientId := Nat

/-- A client with its history. -/
structure KnownClient (κ : Type) where
  /-- The client. -/
  client : κ
  /-- The endpoint that the client was made for, if the registry had it made. -/
  madeFor? : Option String
  /-- How often the client has been initialized. -/
  initializations : Nat
  /-- How often the client has been shut down. -/
  shutdowns : Nat

/-- A registry of clients of type `κ`. -/
structure Registry (κ : Type) where
  /-- All clients that have ever been made or registered, in the order in which they were. -/
  clients : List (KnownClient κ)
  /-- The client that is registered for each endpoint. -/
  entries : List (String × ClientId)
  /-- How clients are made. -/
  factory : Factory κ

namespace Registry

variable {κ : Type}

/-- The registry that holds no clients. -/
def empty (factory : Factory κ) : Registry κ := ⟨[], [], factory⟩

/-- The client that is registered for an endpoint. -/
def get? (r : Registry κ) (endpoint : String) : Option ClientId := r.entries.lookup endpoint

/-- Whether a client is registered for an endpoint. -/
def contains (r : Registry κ) (endpoint : String) : Bool := (r.get? endpoint).isSome

/-- The number of registered clients. -/
def size (r : Registry κ) : Nat := r.entries.length

/-- The endpoints that a client is registered for, in the order of their names. -/
def endpoints (r : Registry κ) : List String := (NameSet.ofList (r.entries.map Prod.fst)).toList

/-- The registry that makes its next clients by another factory. -/
def setFactory (r : Registry κ) (factory : Factory κ) : Registry κ := { r with factory }

/-- Makes `id` the client for an endpoint. -/
def setEntry (r : Registry κ) (endpoint : String) (id : ClientId) : Registry κ :=
  { r with entries := (endpoint, id) :: r.entries.filter (·.1 ≠ endpoint) }

/-- Removes the client for an endpoint. -/
def removeEntry (r : Registry κ) (endpoint : String) : Registry κ :=
  { r with entries := r.entries.filter (·.1 ≠ endpoint) }

/-- Takes a client into the list of known clients, and gives its position there. -/
def addClient (r : Registry κ) (client : κ) (madeFor? : Option String) : ClientId × Registry κ :=
  (r.clients.length, { r with clients := r.clients ++ [⟨client, madeFor?, 0, 0⟩] })

/-- Changes a known client. -/
def modifyClient (r : Registry κ) (id : ClientId) (f : KnownClient κ → KnownClient κ) :
    Registry κ :=
  { r with clients := r.clients.modify id f }

/-- Lets a known client be used. -/
def lend {α : Type} (r : Registry κ) (id : ClientId) (use : κ → Outcome α × κ) :
    Outcome α × Registry κ :=
  match r.clients[id]? with
  | none => (.error .unknownClient, r)
  | some k => ((use k.client).1, r.modifyClient id fun k => { k with client := (use k.client).2 })

/-- Shuts a client down. A failure to do so changes nothing for the registry. -/
def shutDown (l : Lifecycle κ) (r : Registry κ) (id : ClientId) : Registry κ :=
  r.modifyClient id fun k =>
    { k with client := (l.shutdown k.client).2, shutdowns := k.shutdowns + 1 }

/-- Registers a client that the caller has made, and gives the client that it replaces, which is not
shut down. -/
def register (r : Registry κ) (endpoint : String) (client : κ) : Option ClientId × Registry κ :=
  let (id, r') := r.addClient client none
  (r.get? endpoint, r'.setEntry endpoint id)

/-- Removes the client for an endpoint and shuts it down; tells whether there was one. -/
def unregister (l : Lifecycle κ) (r : Registry κ) (endpoint : String) : Bool × Registry κ :=
  match r.get? endpoint with
  | none => (false, r)
  | some id => (true, (r.removeEntry endpoint).shutDown l id)

/-- Removes all clients and shuts them down. -/
def unregisterAll (l : Lifecycle κ) (r : Registry κ) : Registry κ :=
  r.entries.foldl (fun s e => s.shutDown l e.2) { r with entries := [] }

end Registry

end ServiceClause
