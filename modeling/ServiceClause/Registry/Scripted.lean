import ServiceClause.Registry.Basic

/-!
# Scripted clients

Clients whose initialization and shutdown have outcomes that are given beforehand, and registries
that hold clients of two types.

## Main definitions

* `ServiceClause.ScriptedClient` — a client with given outcomes.
* `ServiceClause.Lifecycle.sum` — the life of clients of either of two types.
-/

set_option autoImplicit false

namespace ServiceClause

/-- A client with given outcomes. -/
structure ScriptedClient where
  /-- The endpoint. -/
  endpoint : String
  /-- What becomes of its initialization. -/
  initialization : Delayed (Outcome Unit)
  /-- What becomes of its shutdown. -/
  shutdown : Outcome Unit

/-- The life of a scripted client, which changes nothing about it. -/
def ScriptedClient.lifecycle : Lifecycle ScriptedClient where
  prepare c := (c.initialization, c)
  shutdown c := (c.shutdown, c)

/-- The life of clients of either of two types. -/
def Lifecycle.sum {κ μ : Type} (l : Lifecycle κ) (m : Lifecycle μ) : Lifecycle (κ ⊕ μ) where
  prepare
    | .inl c => ((l.prepare c).1, .inl (l.prepare c).2)
    | .inr c => ((m.prepare c).1, .inr (m.prepare c).2)
  shutdown
    | .inl c => ((l.shutdown c).1, .inl (l.shutdown c).2)
    | .inr c => ((m.shutdown c).1, .inr (m.shutdown c).2)

end ServiceClause
