import ServiceClause.Registry.Basic

/-!
# Acquiring a client

A client for an endpoint is acquired in steps: the registry is looked up; if it has no client, one
is made and initialized; then it is registered, unless another one has been registered in the
meantime, which is handed out instead. Several acquisitions may be under way, and their steps may
come in any order. A client that fails to initialize or comes too late is shut down.

## Main definitions

* `ServiceClause.Acquisition` — an acquisition that is under way.
* `ServiceClause.Registry.step` — its next step.
* `ServiceClause.Registry.acquire` — an acquisition by itself.
* `ServiceClause.Registry.race` — acquisitions that are started together.
-/

set_option autoImplicit false

namespace ServiceClause

/-- An acquisition that is under way. -/
inductive Acquisition where
  /-- The registry has not been looked up. -/
  | requested (endpoint : String)
  /-- There was no client, so one has to be made. -/
  | missing (endpoint : String)
  /-- The client is being initialized, which will take some time and have an outcome. -/
  | initializing (endpoint : String) (id : ClientId) (initialization : Delayed (Outcome Unit))
  /-- The acquisition has ended. -/
  | ended (result : Outcome ClientId)

namespace Registry

variable {κ : Type}

/-- Makes a client and begins to initialize it. -/
def begin (l : Lifecycle κ) (r : Registry κ) (endpoint : String) :
    Outcome (ClientId × Delayed (Outcome Unit)) × Registry κ :=
  match r.factory.create endpoint with
  | (.error e, factory) => (.error e, { r with factory })
  | (.ok client, factory) =>
    let (initialization, client') := l.prepare client
    let (id, r') := { r with factory }.addClient client' (some endpoint)
    (.ok (id, initialization),
      r'.modifyClient id fun k => { k with initializations := k.initializations + 1 })

/-- Registers a client that has been initialized, unless there is one already. -/
def commit (l : Lifecycle κ) (r : Registry κ) (endpoint : String) (id : ClientId) :
    Outcome Unit → Outcome ClientId × Registry κ
  | .error e => (.error e, r.shutDown l id)
  | .ok () =>
    match r.get? endpoint with
    | some other => (.ok other, r.shutDown l id)
    | none => (.ok id, r.setEntry endpoint id)

/-- The next step of an acquisition. -/
def step (l : Lifecycle κ) (r : Registry κ) : Acquisition → Acquisition × Registry κ
  | .requested endpoint =>
    match r.get? endpoint with
    | some id => (.ended (.ok id), r)
    | none => (.missing endpoint, r)
  | .missing endpoint =>
    match r.begin l endpoint with
    | (.error e, r) => (.ended (.error e), r)
    | (.ok (id, initialization), r) => (.initializing endpoint id initialization, r)
  | .initializing endpoint id initialization =>
    ((.ended (r.commit l endpoint id initialization.value).1),
      (r.commit l endpoint id initialization.value).2)
  | .ended result => (.ended result, r)

/-- Makes a client, initializes and registers it. -/
def acquireNew (l : Lifecycle κ) (r : Registry κ) (endpoint : String) :
    Outcome ClientId × Registry κ :=
  match r.begin l endpoint with
  | (.error e, r) => (.error e, r)
  | (.ok (id, initialization), r) => r.commit l endpoint id initialization.value

/-- The steps of an acquisition to its end. -/
def complete (l : Lifecycle κ) (r : Registry κ) : Acquisition → Outcome ClientId × Registry κ
  | .requested endpoint =>
    match r.get? endpoint with
    | some id => (.ok id, r)
    | none => r.acquireNew l endpoint
  | .missing endpoint => r.acquireNew l endpoint
  | .initializing endpoint id initialization => r.commit l endpoint id initialization.value
  | .ended result => (result, r)

/-- Acquires the client for an endpoint. -/
def acquire (l : Lifecycle κ) (r : Registry κ) (endpoint : String) :
    Outcome ClientId × Registry κ :=
  r.complete l (.requested endpoint)

/-! ## Acquisitions that are started together -/

/-- The time that an acquisition waits for a client to be initialized. -/
def waitingTime : Acquisition → Duration
  | .initializing _ _ initialization => initialization.delay
  | _ => .zero

/-- Starts an acquisition: it goes on until it has to wait. -/
def launch (l : Lifecycle κ) (r : Registry κ) (endpoint : String) : Acquisition × Registry κ :=
  let (a, r) := r.step l (.requested endpoint)
  let (a, r) := r.step l a
  if waitingTime a = .zero then r.step l a else (a, r)

/-- Starts acquisitions one after another. -/
def launchAll (l : Lifecycle κ) (r : Registry κ) :
    List String → List Acquisition × Registry κ
  | [] => ([], r)
  | endpoint :: rest =>
    let (a, r) := r.launch l endpoint
    let (others, r) := r.launchAll l rest
    (a :: others, r)

/-- Ends acquisitions in the given order; each has its place among all acquisitions. -/
def completeAll (l : Lifecycle κ) (r : Registry κ) :
    List (Nat × Acquisition) → List (Nat × Outcome ClientId) × Registry κ
  | [] => ([], r)
  | (place, a) :: rest =>
    let (result, r) := r.complete l a
    let (others, r) := r.completeAll l rest
    ((place, result) :: others, r)

/-- Acquires clients at once: every acquisition goes on until it has to wait, and then they end in
the order of their waiting times. The results are in the order of the endpoints. -/
def race (l : Lifecycle κ) (r : Registry κ) (endpoints : List String) :
    List (Outcome ClientId) × Registry κ :=
  let (acquisitions, r) := r.launchAll l endpoints
  let placed := (List.range acquisitions.length).zip acquisitions
  let (results, r) := r.completeAll l
    (placed.mergeSort fun a b => decide (waitingTime a.2 ≤ waitingTime b.2))
  (placed.filterMap fun p => results.lookup p.1, r)

end Registry

end ServiceClause
