import ServiceClause.Duration
import ServiceClause.Http.Header
import ServiceClause.Http.Status
import ServiceClause.Http.Url
import ServiceClause.Text.Utf8

/-!
# Requests and replies

A transport carries requests to their host and brings back replies. It may also find that there is
nobody to take a request, lose the connection, or wait in vain.

## Main definitions

* `ServiceClause.Http.Request`, `ServiceClause.Http.Reply` — what is carried.
* `ServiceClause.Http.Transport` — what carries it.
* `ServiceClause.Http.Transport.refusing` — a transport that reaches nobody.
* `ServiceClause.Http.Transport.scripted` — a transport with replies given beforehand.
-/

set_option autoImplicit false

namespace ServiceClause.Http

/-- A request. -/
structure Request where
  /-- The method. -/
  method : String
  /-- Where the request goes. -/
  url : Url
  /-- The headers in the order of their names. -/
  headers : Headers
  /-- What is sent. -/
  body : String
deriving DecidableEq, Repr

/-- What comes of a request. -/
inductive Reply where
  /-- It was answered. -/
  | answered (status : Status) (body : List Symbol)
  /-- Nobody took it. -/
  | refused
  /-- The connection was lost before there was an answer. -/
  | dropped
  /-- There was no answer as long as the client waited. -/
  | unanswered
deriving Repr

/-- What carries requests. Its states say what it remembers. -/
structure Transport (τ : Type) where
  /-- Carries a request. -/
  send : Request → τ → Reply × τ

namespace Transport

/-- The transport that reaches nobody. -/
def refusing : Transport Unit := ⟨fun _ s => (.refused, s)⟩

/-- The transport that has its replies given beforehand, one for each request, and remembers the
requests. When the replies are used up, the service is unavailable. -/
def scripted : Transport (List Reply × List Request) where
  send request s :=
    match s.1 with
    | [] => (.answered ⟨503⟩ [], ([], s.2 ++ [request]))
    | reply :: rest => (reply, (rest, s.2 ++ [request]))

end Transport

end ServiceClause.Http
