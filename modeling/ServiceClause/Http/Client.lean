import ServiceClause.Batch
import ServiceClause.Config
import ServiceClause.Http.Transport
import ServiceClause.Http.Url.Reading
import ServiceClause.Query.Base
import ServiceClause.Registry.Basic

/-!
# The client of an endpoint

A client sends queries to one endpoint as forms. It opens its connection when it first needs it and
keeps it until it is shut down, after which it can do nothing any more. How a request failed decides
what kind of error it is: an endpoint that rejects the query, one that cannot be reached, or one
that fails to answer.

## Main definitions

* `ServiceClause.Http.Connection` — the life of a client.
* `ServiceClause.Http.Client` — a client.
* `ServiceClause.Http.Client.connect`, `submit` — opening the connection and sending a query.
* `ServiceClause.Http.Client.prepare`, `shutDown` — the beginning and the end of its life.
* `ServiceClause.Http.Client.service` — the client as a service.
-/

set_option autoImplicit false

namespace ServiceClause.Http

/-- The media type of result documents. -/
def resultsMediaType : String := "application/sparql-results+json"

/-- The number of characters of a reply that an error tells. -/
def excerptLength : Nat := 512

/-- The life of a client. -/
inductive Connection where
  /-- There is no connection yet. -/
  | idle
  /-- The connection is open; these headers go with every request. -/
  | opened (headers : Headers)
  /-- The client has been shut down. -/
  | shutDown
deriving DecidableEq, Repr

/-- The client of an endpoint. `τ` are the states of its transport. -/
structure Client (τ : Type) where
  /-- The endpoint. -/
  endpoint : String
  /-- The settings. -/
  config : ClientConfig
  /-- Where in its life the client is. -/
  connection : Connection
  /-- The state of the transport. -/
  carrier : τ

namespace Client

variable {τ : Type}

/-- A client that has not been used. -/
def new (endpoint : String) (config : ClientConfig) (carrier : τ) : Client τ :=
  ⟨endpoint, config, .idle, carrier⟩

/-- Whether the connection is open. -/
def isOpen (c : Client τ) : Bool :=
  match c.connection with
  | .opened _ => true
  | _ => false

/-- Whether the client has been shut down. -/
def isShutDown (c : Client τ) : Bool := c.connection = .shutDown

/-! ## Errors -/

/-- The client has been shut down. -/
def afterShutdown (c : Client τ) : FederationError :=
  .connection ("Client for endpoint " ++ c.endpoint ++ " has been shut down")

/-- The endpoint cannot be reached. -/
def unreachable (c : Client τ) (cause : String) : FederationError :=
  .connection ("SPARQL endpoint " ++ c.endpoint ++ " unreachable: " ++ cause)

/-- Why a request could not be sent to a URL. -/
def sendingFailed (url : Url) : String := "error sending request for url (" ++ url.text ++ ")"

/-! ## Connections -/

/-- The URL of the endpoint, which has to be one of the web. -/
def parseEndpoint (c : Client τ) : Outcome Url :=
  match Url.read c.endpoint with
  | .error e => .error (.connection
      ("Invalid endpoint '" ++ c.endpoint ++ "': " ++ e.message))
  | .ok url =>
    if url.scheme = "http" ∨ url.scheme = "https" then .ok url
    else .error (.connection
      ("Unsupported scheme '" ++ url.scheme ++ "' for endpoint '" ++ c.endpoint ++ "'"))

/-- The headers of every request: the media type of the answer and the name of the sender, unless
the configuration sets them otherwise, and what else it sets. -/
def configuredHeaders (c : Client τ) : Outcome Headers := do
  let configured ← Headers.addConfigured [("accept", resultsMediaType)] c.config.headers
  if isHeaderValue c.config.userAgent then
    if (configured.lookup "user-agent").isSome then return configured
    else return configured ++ [("user-agent", c.config.userAgent)]
  else .error (.connection
    ("Could not initialize client for endpoint " ++ c.endpoint ++ ": builder error"))

/-- The headers of the connection, which is opened if it has not been. -/
def connect (c : Client τ) : Outcome Headers × Client τ :=
  match c.connection with
  | .opened headers => (.ok headers, c)
  | .shutDown => (.error c.afterShutdown, c)
  | .idle =>
    match c.configuredHeaders with
    | .error e => (.error e, c)
    | .ok headers => (.ok headers, { c with connection := .opened headers })

/-! ## Requests -/

/-- The number of bytes that the URL of a request may have. -/
def urlLimit : Nat := 65534

/-- Whether requests can go to a URL: it has to have a host of the web, without marks that may not
stand in a request, and must not be too long. -/
def isRequestable (url : Url) : Bool :=
  url.hasHost && (url.scheme == "http" || url.scheme == "https") &&
    !(url.host?.getD "").toList.any (['"', Char.ofNat 0x60, '\x7b', '\x7d'].contains ·) &&
    url.text.utf8ByteSize ≤ urlLimit

/-- The URL that requests go to, or why there is none. The name and the password in it do not go
with it, but with the headers. -/
def requestUrl (endpoint : String) : Except String Url :=
  match Url.read endpoint with
  | .error _ => .error "builder error"
  | .ok url =>
    if isRequestable url.withoutUser then .ok url.withoutUser
    else .error ("builder error for url (" ++ url.withoutUser.text ++ ")")

/-- The request that sends a query to a URL. -/
def request (url : Url) (headers : Headers) (query : String) : Request where
  method := "POST"
  url := url.withoutFragment
  headers := (Headers.set "content-type" "application/x-www-form-urlencoded" headers).sorted
  body := "query=" ++ String.ofList (formEncode query.toList)

/-- What a reply means: the symbols of a document, or an error. -/
def interpret (c : Client τ) (url : Url) (patience : Option Duration) :
    Reply → Delayed (Outcome (List Symbol))
  | .answered status body =>
    .now (if status.isSuccess then .ok body
      else
        let excerpt := String.ofList ((Utf8.lossyText body).toList.take excerptLength)
        if status = .badRequest then
          .error (.malformedQuery
            ("endpoint " ++ c.endpoint ++ " rejected query: " ++ excerpt))
        else .error (.queryExecution
          ("endpoint " ++ c.endpoint ++ " returned " ++ status.text ++ ": " ++ excerpt)))
  | .refused => .now (.error (c.unreachable (sendingFailed url)))
  | .dropped => .now (.error (.queryExecution (sendingFailed url)))
  | .unanswered => ⟨patience.getD .zero, .error (.timeout (patience.getD .zero))⟩

/-- Sends a query and gives the symbols of the document that answers it. The client waits as long as
the call allows, or else as long as it is configured to. -/
def submit (t : Transport τ) (c : Client τ) (call : Call) :
    Delayed (Outcome (List Symbol)) × Client τ :=
  match c.connect with
  | (.error e, c) => (.now (.error e), c)
  | (.ok headers, c) =>
    match requestUrl c.endpoint with
    | .error cause => (.now (.error (c.unreachable cause)), c)
    | .ok url =>
      let sent := request url headers (withBase call.query call.base?)
      let (reply, carrier) := t.send sent c.carrier
      (c.interpret url (call.budget?.or c.config.requestTimeout) reply,
        { c with carrier })

/-- A delayed document, understood. -/
def understand {α : Type} (read : List Symbol → Outcome α) (a : Delayed (Outcome (List Symbol))) :
    Delayed (Outcome α) :=
  ⟨a.delay, a.value.bind read⟩

/-- The client as a service. -/
def service (t : Transport τ) : Service (Client τ) where
  select call c := (understand Solutions.read (c.submit t call).1, (c.submit t call).2)
  ask call c := (understand readTruth (c.submit t call).1, (c.submit t call).2)

/-! ## Life -/

/-- Why the test query failed. -/
def probeFailed (c : Client τ) : FederationError → FederationError
  | .connection detail => .connection detail
  | e => .connection ("Probe of endpoint " ++ c.endpoint ++ " failed: " ++ e.message)

/-- The query that tests an endpoint. -/
def probe (c : Client τ) : Call := ⟨.ask, "ASK \x7b\x7d", none, c.config.requestTimeout⟩

/-- Opens the connection of an endpoint with an acceptable URL, and tests it if it is configured
so. -/
def prepare (t : Transport τ) (c : Client τ) : Delayed (Outcome Unit) × Client τ :=
  if c.isShutDown then (.now (.error c.afterShutdown), c)
  else match c.parseEndpoint with
    | .error e => (.now (.error e), c)
    | .ok _ =>
      match c.connect with
      | (.error e, c) => (.now (.error e), c)
      | (.ok _, c) =>
        if c.config.probe then
          let (answer, c) := (service t).ask c.probe c
          (⟨answer.delay, (answer.value.map fun _ => ()).mapError c.probeFailed⟩, c)
        else (.now (.ok ()), c)

/-- Closes the connection for ever. -/
def shutDown (c : Client τ) : Outcome Unit × Client τ :=
  (.ok (), { c with connection := .shutDown })

/-- The life of a client as a registry sees it. -/
def lifecycle (t : Transport τ) : Lifecycle (Client τ) := ⟨prepare t, shutDown⟩

/-- Makes clients that are all configured in the same way. -/
def factory (config : ClientConfig) (carrier : τ) : Factory (Client τ) :=
  ⟨[], fun endpoint => new endpoint config carrier⟩

end Client

end ServiceClause.Http
