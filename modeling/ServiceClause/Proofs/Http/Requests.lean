import ServiceClause.Http.Client

/-!
# Requests of a client

Whether a client sends a request for a call depends on where in its life it is, on its settings and
on its endpoint, and not on the call or on what has been answered before. If it does, it sends one
request, and what the call gives is decided by the reply to it alone.

## Main definitions

* `ServiceClause.Http.Trip` — a request and what has come of it.
* `ServiceClause.Http.Transport.transcribing` — a transport that remembers its trips.
* `ServiceClause.Http.Client.route` — where and with which headers requests go.

## Main statements

* `ServiceClause.Http.Client.submit_of_route_error` — without a route nothing is sent.
* `ServiceClause.Http.Client.submit_of_route` — with a route one request is sent.
* `ServiceClause.Http.Client.configuredHeaders_eq_error_iff` — which settings give no headers.
-/

set_option autoImplicit false

namespace ServiceClause.Http

/-- A request and what has come of it. -/
structure Trip where
  /-- The request. -/
  request : Request
  /-- What has come of it. -/
  reply : Reply
deriving Repr

/-- The transport that also remembers all requests and replies in their order. -/
def Transport.transcribing {τ : Type} (t : Transport τ) : Transport (τ × List Trip) where
  send request s :=
    ((t.send request s.1).1,
      ((t.send request s.1).2, s.2 ++ [⟨request, (t.send request s.1).1⟩]))

/-! ## Headers -/

namespace Headers

/-- Whether a header of a configuration may be sent. -/
def isSendable (header : String × String) : Bool :=
  (headerName? header.1).isSome && isHeaderValue header.2

/-- Configured headers are not added if one of them may not be sent. -/
theorem addConfigured_eq_error_iff (headers : Headers) (configured : List (String × String)) :
    (∃ e, addConfigured headers configured = .error e) ↔
      ∃ h ∈ configured, isSendable h = false := by
  induction configured generalizing headers with
  | nil => simp [addConfigured]
  | cons header rest ih =>
    obtain ⟨name, value⟩ := header
    rw [addConfigured]
    cases hname : headerName? name with
    | none => simp [isSendable, hname]
    | some lower =>
      cases hvalue : isHeaderValue value with
      | false => simp [isSendable, hvalue]
      | true => simp [isSendable, hname, hvalue, ih]

/-- A header that may not be sent is no failure of the endpoint. -/
theorem isRecoverable_of_addConfigured {headers : Headers} {configured : List (String × String)}
    {e : FederationError} (h : addConfigured headers configured = .error e) :
    e.isRecoverable = false := by
  induction configured generalizing headers with
  | nil => simp [addConfigured] at h
  | cons header rest ih =>
    obtain ⟨name, value⟩ := header
    rw [addConfigured] at h
    cases hname : headerName? name with
    | none =>
      rw [hname] at h
      obtain rfl := Except.error.inj h
      rfl
    | some lower =>
      rw [hname] at h
      cases hvalue : isHeaderValue value with
      | false =>
        simp only [hvalue, Bool.false_eq_true, if_false] at h
        obtain rfl := Except.error.inj h
        rfl
      | true =>
        simp only [hvalue, if_true] at h
        exact ih h

end Headers

namespace Client

variable {τ : Type} {c : Client τ} {headers : Headers} {e : FederationError}

/-- Settings give no headers if one of the configured headers or the name of the sender may not be
sent. -/
theorem configuredHeaders_eq_error_iff :
    (∃ e, c.configuredHeaders = .error e) ↔
      (∃ h ∈ c.config.headers, Headers.isSendable h = false) ∨
        isHeaderValue c.config.userAgent = false := by
  rw [← Headers.addConfigured_eq_error_iff [("accept", resultsMediaType)]]
  unfold configuredHeaders
  cases Headers.addConfigured [("accept", resultsMediaType)] c.config.headers with
  | error e => simp [bind, Except.bind]
  | ok headers =>
    cases isHeaderValue c.config.userAgent with
    | false => simp [bind, Except.bind]
    | true =>
      simp only [bind, Except.bind, if_true]
      split <;> simp [pure, Except.pure]

theorem isRecoverable_of_configuredHeaders (h : c.configuredHeaders = .error e) :
    e.isRecoverable = false := by
  unfold configuredHeaders at h
  cases hadded : Headers.addConfigured [("accept", resultsMediaType)] c.config.headers with
  | error e' =>
    rw [hadded] at h
    obtain rfl := Except.error.inj h
    exact Headers.isRecoverable_of_addConfigured hadded
  | ok headers =>
    simp only [hadded, bind, Except.bind] at h
    split at h
    · split at h <;> cases h
    · obtain rfl := Except.error.inj h
      rfl

/-! ## Connections -/

/-- The client with an open connection and the given state of its transport. -/
def openedWith (c : Client τ) (headers : Headers) (carrier : τ) : Client τ :=
  { c with connection := .opened headers, carrier }

/-- A connection that is not given out leaves the client as it is. -/
theorem connect_of_error (h : c.connect.1 = .error e) : c.connect.2 = c ∧
    (c.connection = .shutDown ∧ e = c.afterShutdown ∨
      c.connection = .idle ∧ c.configuredHeaders = .error e) := by
  unfold connect at h ⊢
  cases hconnection : c.connection with
  | opened headers => simp [hconnection] at h
  | shutDown => simpa [hconnection, eq_comm] using h
  | idle =>
    cases hheaders : c.configuredHeaders with
    | error e' => simpa [hconnection, hheaders] using h
    | ok headers => simp [hconnection, hheaders] at h

/-- A connection that is given out is open from then on. -/
theorem connect_of_ok (h : c.connect.1 = .ok headers) :
    c.connect.2 = c.openedWith headers c.carrier ∧
      (c.connection = .opened headers ∨
        c.connection = .idle ∧ c.configuredHeaders = .ok headers) := by
  obtain ⟨endpoint, config, connection, carrier⟩ := c
  unfold connect at h ⊢
  cases connection with
  | opened headers' => simpa [openedWith] using h
  | shutDown => simp at h
  | idle =>
    simp only at h ⊢
    split at h
    · simp at h
    · next headers' hheaders =>
      simp only [Except.ok.injEq] at h
      subst h
      simp [hheaders, openedWith]

/-- Opening the connection sends nothing. -/
theorem carrier_connect (c : Client τ) : c.connect.2.carrier = c.carrier := by
  cases h : c.connect.1 with
  | error e => rw [(connect_of_error h).1]
  | ok headers => rw [(connect_of_ok h).1, openedWith]

/-! ## Routes -/

/-- Where and with which headers the requests of a client go, or why none is sent. -/
def route (c : Client τ) : Outcome (Url × Headers) :=
  match c.connect.1 with
  | .error e => .error e
  | .ok headers =>
    match requestUrl c.endpoint with
    | .error cause => .error (c.unreachable cause)
    | .ok url => .ok (url, headers)

/-- A route begins with a connection. -/
theorem route_eq_ok_iff {url : Url} : c.route = .ok (url, headers) ↔
    c.connect.1 = .ok headers ∧ requestUrl c.endpoint = .ok url := by
  unfold route
  cases c.connect.1 with
  | error e => simp
  | ok headers' =>
    cases requestUrl c.endpoint with
    | error cause => simp
    | ok url' => simp [and_comm]

/-- Why there is no route: the client has been shut down, it has no headers, or its endpoint is none
that requests can go to. -/
theorem route_eq_error (h : c.route = .error e) :
    c.connection = .shutDown ∧ e = c.afterShutdown ∨
      c.connection = .idle ∧ c.configuredHeaders = .error e ∨
      ∃ cause, requestUrl c.endpoint = .error cause ∧ e = c.unreachable cause := by
  unfold route at h
  cases hconnect : c.connect.1 with
  | error e' =>
    rw [hconnect] at h
    obtain rfl := Except.error.inj h
    rcases (connect_of_error hconnect).2 with hended | hheaders
    · exact .inl hended
    · exact .inr (.inl hheaders)
  | ok headers =>
    rw [hconnect] at h
    cases hurl : requestUrl c.endpoint with
    | error cause =>
      rw [hurl] at h
      exact .inr (.inr ⟨cause, rfl, (Except.error.inj h).symm⟩)
    | ok url => simp [hurl] at h

/-- That there is no route is no failure of the endpoint. -/
theorem isRecoverable_of_route (h : c.route = .error e) : e.isRecoverable = false := by
  rcases route_eq_error h with ⟨_, rfl⟩ | ⟨_, hheaders⟩ | ⟨cause, _, rfl⟩
  · rfl
  · exact isRecoverable_of_configuredHeaders hheaders
  · rfl

/-- A route stays as it is while the client sends requests. -/
theorem route_openedWith {url : Url} (h : c.route = .ok (url, headers)) (carrier : τ) :
    (c.openedWith headers carrier).route = .ok (url, headers) :=
  route_eq_ok_iff.2 ⟨rfl, (route_eq_ok_iff.1 h).2⟩

/-- Without a route a call fails, and nothing is sent. -/
theorem submit_of_route_error (h : c.route = .error e) (t : Transport τ) (call : Call) :
    c.submit t call = (.now (.error e), c.connect.2) := by
  unfold route at h
  cases hconnect : c.connect.1 with
  | error e' =>
    have hpair : c.connect = (.error e', c.connect.2) := Prod.ext hconnect rfl
    rw [hconnect] at h
    obtain rfl := Except.error.inj h
    rw [submit, hpair]
  | ok headers =>
    have hopened := (connect_of_ok hconnect).1
    have hpair : c.connect = (.ok headers, c.openedWith headers c.carrier) :=
      Prod.ext hconnect hopened
    rw [hconnect] at h
    cases hurl : requestUrl c.endpoint with
    | error cause =>
      rw [hurl] at h
      obtain rfl := Except.error.inj h
      have hurl' : requestUrl (c.openedWith headers c.carrier).endpoint = .error cause := hurl
      rw [hopened]
      simp only [submit, hpair, hurl']
      rfl
    | ok url => simp [hurl] at h

/-- With a route a call sends one request. -/
theorem submit_of_route {url : Url} (h : c.route = .ok (url, headers)) (t : Transport τ)
    (call : Call) :
    c.submit t call =
      (c.interpret url (call.budget?.or c.config.requestTimeout)
          (t.send (request url headers (withBase call.query call.base?)) c.carrier).1,
        c.openedWith headers
          (t.send (request url headers (withBase call.query call.base?)) c.carrier).2) := by
  obtain ⟨hconnect, hurl⟩ := route_eq_ok_iff.1 h
  have hopened : c.connect = (.ok headers, c.openedWith headers c.carrier) :=
    Prod.ext hconnect (connect_of_ok hconnect).1
  have hurl' : requestUrl (c.openedWith headers c.carrier).endpoint = .ok url := hurl
  simp only [submit, hopened, hurl']
  rfl

end Client

end ServiceClause.Http
