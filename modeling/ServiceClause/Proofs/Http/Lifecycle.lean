import ServiceClause.Proofs.Http.Requests

/-!
# The life of a client

A client begins idle, opens its connection at most once and is shut down for ever. Whatever is done
with it, an action sends at most one request. A client that cannot be prepared, because its endpoint
or a header is not acceptable, stays as it was, and so does one that is given a query into which the
values of a row cannot be put.

## Main definitions

* `ServiceClause.Http.Connection.Moves` — how the life of a client may go on.
* `ServiceClause.Http.Client.Action` — what can be done with a client.
* `ServiceClause.Http.Client.perform`, `ServiceClause.Http.Client.performAll` — one action and
  several.
* `ServiceClause.Http.Client.Effect` — what an action may change.
* `ServiceClause.Http.Client.KeepsLifecycle` — what holds of every action.

## Main statements

* `ServiceClause.Http.Client.effect_perform` — an action changes nothing else.
* `ServiceClause.Http.Client.perform_of_shutDown` — an action changes nothing after the end.
* `ServiceClause.Http.Client.client_keeps_lifecycle` — the life of a client.
-/

set_option autoImplicit false

namespace ServiceClause.Http

/-- How the life of a client may go on. -/
inductive Connection.Moves : Connection → Connection → Prop where
  /-- The connection is opened. -/
  | opens (headers : Headers) : Moves .idle (.opened headers)
  /-- The client is shut down before it has been used. -/
  | dismissed : Moves .idle .shutDown
  /-- The connection is closed. -/
  | closes (headers : Headers) : Moves (.opened headers) .shutDown

namespace Client

variable {τ : Type}

/-! ## Actions -/

/-- What can be done with a client. -/
inductive Action where
  /-- It is prepared for use. -/
  | prepare
  /-- It is asked for rows. -/
  | select (query : String) (base? : Option String) (budget? : Option Duration)
  /-- It is asked for a truth value. -/
  | ask (query : String) (base? : Option String) (budget? : Option Duration)
  /-- It evaluates a query of the given form for one row. -/
  | evaluate (form : QueryForm) (query : String) (row : Row) (base? : Option String)
    (declared : NameSet)
  /-- It is shut down. -/
  | shutDown

/-- Whether an action can only succeed before the client has been shut down. -/
def Action.needsLife : Action → Bool
  | prepare | select .. | ask .. => true
  | evaluate .. | shutDown => false

/-- Does something with a client. What an answer holds is left out of the outcome. -/
def perform (t : Transport τ) (c : Client τ) : Action → Outcome Unit × Client τ
  | .prepare => ((c.prepare t).1.value, (c.prepare t).2)
  | .select query base? budget? =>
    let (answer, c) := (service t).select ⟨.select, query, base?, budget?⟩ c
    (answer.value.map fun _ => (), c)
  | .ask query base? budget? =>
    let (answer, c) := (service t).ask ⟨.ask, query, base?, budget?⟩ c
    (answer.value.map fun _ => (), c)
  | .evaluate form query row base? declared =>
    let (outcome, c) := (evaluateRow form query row base? declared).runToEnd (service t) c
    (outcome.map fun _ => (), c)
  | .shutDown => c.shutDown

/-- The client after actions in this order. -/
def performAll (t : Transport τ) (c : Client τ) (actions : List Action) : Client τ :=
  actions.foldl (fun c action => (c.perform t action).2) c

theorem performAll_cons (t : Transport τ) (c : Client τ) (action : Action)
    (actions : List Action) :
    c.performAll t (action :: actions) = (c.perform t action).2.performAll t actions := rfl

/-- A property that every action keeps holds after all actions. -/
theorem performAll_induction {t : Transport τ} {motive : Client τ → Prop}
    (hstep : ∀ c action, motive c → motive (c.perform t action).2) {c : Client τ} (hc : motive c)
    (actions : List Action) : motive (c.performAll t actions) := by
  induction actions generalizing c with
  | nil => exact hc
  | cons action actions ih => exact ih (hstep c action hc)

/-! ## What an action changes -/

/-- What an action may make of a client, unless it shuts it down. -/
inductive Effect (t : Transport τ) (c : Client τ) : Client τ → Prop where
  /-- It stays as it is. -/
  | nothing : Effect t c c
  /-- Its connection is open, and it may have sent a request. -/
  | opened {headers : Headers} {carrier : τ} (hconnect : c.connect.1 = .ok headers)
    (hcarrier : carrier = c.carrier ∨ ∃ request, carrier = (t.send request c.carrier).2) :
    Effect t c (c.openedWith headers carrier)

theorem effect_connect (t : Transport τ) (c : Client τ) : Effect t c c.connect.2 := by
  cases hconnect : c.connect.1 with
  | error e =>
    rw [(connect_of_error hconnect).1]
    exact .nothing
  | ok headers =>
    rw [(connect_of_ok hconnect).1]
    exact .opened hconnect (.inl rfl)

/-- A call opens the connection and sends at most one request. -/
theorem effect_submit (t : Transport τ) (c : Client τ) (call : Call) :
    Effect t c (c.submit t call).2 := by
  cases hroute : c.route with
  | error e =>
    rw [submit_of_route_error hroute]
    exact effect_connect t c
  | ok route =>
    obtain ⟨url, headers⟩ := route
    rw [submit_of_route hroute]
    exact .opened (route_eq_ok_iff.1 hroute).1 (.inr ⟨_, rfl⟩)

/-- A call opens the connection by itself. -/
theorem submit_openedWith {c : Client τ} {headers : Headers} (h : c.connect.1 = .ok headers)
    (t : Transport τ) (call : Call) :
    (c.openedWith headers c.carrier).submit t call = c.submit t call := by
  have hconnect : c.connect = (.ok headers, c.openedWith headers c.carrier) :=
    Prod.ext h (connect_of_ok h).1
  have hopened : (c.openedWith headers c.carrier).connect =
    (.ok headers, c.openedWith headers c.carrier) := rfl
  rw [submit, submit, hconnect, hopened]

theorem effect_prepare (t : Transport τ) (c : Client τ) : Effect t c (c.prepare t).2 := by
  unfold prepare
  split
  · exact .nothing
  split
  · exact .nothing
  split
  · next e c' hconnect =>
    have hsame : c.connect.2 = c' := by rw [hconnect]
    exact hsame ▸ effect_connect t c
  · next headers c' hconnect =>
    have hok : c.connect.1 = .ok headers := by rw [hconnect]
    have hopened : c' = c.openedWith headers c.carrier := by
      rw [← (connect_of_ok hok).1, hconnect]
    subst hopened
    split
    · show Effect t c ((c.openedWith headers c.carrier).submit t _).2
      rw [submit_openedWith hok]
      exact effect_submit t c _
    · exact .opened hok (.inl rfl)

/-- The query for one row is put together first, and then it is a call like others. -/
theorem runToEnd_evaluateRow (t : Transport τ) (c : Client τ) (form : QueryForm) (query : String)
    (row : Row) (base? : Option String) (declared : NameSet) :
    (∃ e, preBind query row declared = .error e ∧
      (evaluateRow form query row base? declared).runToEnd (service t) c = (.error e, c)) ∨
    ∃ text, preBind query row declared = .ok text ∧
      ((evaluateRow form query row base? declared).runToEnd (service t) c).2 =
        (c.submit t ⟨form, text, base?, none⟩).2 := by
  cases hbind : preBind query row declared with
  | error e =>
    refine .inl ⟨e, rfl, ?_⟩
    cases form <;> simp [evaluateRow, evaluateSelect, evaluateAsk, hbind, Evaluation.runToEnd,
      Evaluation.run]
  | ok text =>
    refine .inr ⟨text, rfl, ?_⟩
    cases form <;> simp [evaluateRow, evaluateSelect, evaluateAsk, hbind, Evaluation.runToEnd,
      Evaluation.run, service]

/-- An action that does not shut the client down opens the connection and sends one request at
most. -/
theorem effect_perform (t : Transport τ) (c : Client τ) {action : Action}
    (haction : action ≠ .shutDown) : Effect t c (c.perform t action).2 := by
  cases action with
  | prepare => exact effect_prepare t c
  | select query base? budget? => exact effect_submit t c _
  | ask query base? budget? => exact effect_submit t c _
  | evaluate form query row base? declared =>
    show Effect t c ((evaluateRow form query row base? declared).runToEnd (service t) c).2
    rcases runToEnd_evaluateRow t c form query row base? declared with ⟨e, _, hrun⟩ | ⟨text, _, hrun⟩
    · rw [hrun]
      exact .nothing
    · rw [hrun]
      exact effect_submit t c _
  | shutDown => exact absurd rfl haction

theorem Effect.moves {t : Transport τ} {c c' : Client τ} (h : Effect t c c') :
    c'.connection = c.connection ∨ c.connection.Moves c'.connection := by
  cases h with
  | nothing => exact .inl rfl
  | @opened headers carrier hconnect hcarrier =>
    rcases (connect_of_ok hconnect).2 with hopened | ⟨hidle, _⟩
    · exact .inl hopened.symm
    · rw [hidle]
      exact .inr (.opens headers)

/-- Nothing else than shutting it down ends the life of a client. -/
theorem Effect.alive {t : Transport τ} {c c' : Client τ} (h : Effect t c c')
    (hc : c.connection ≠ .shutDown) : c'.connection ≠ .shutDown := by
  cases h with
  | nothing => exact hc
  | opened hconnect hcarrier => exact Connection.noConfusion

/-- After the end there is no connection any more. -/
theorem Effect.eq_of_shutDown {t : Transport τ} {c c' : Client τ} (h : Effect t c c')
    (hc : c.connection = .shutDown) : c' = c := by
  cases h with
  | nothing => rfl
  | opened hconnect hcarrier => simp [connect, hc] at hconnect

/-- Whether a client has these settings, and its connection the headers that they give. -/
structure Configured (endpoint : String) (config : ClientConfig) (c : Client τ) : Prop where
  /-- The endpoint is this one. -/
  endpoint_eq : c.endpoint = endpoint
  /-- The settings are these. -/
  config_eq : c.config = config
  /-- An open connection has the headers of the settings. -/
  headers_eq : ∀ headers, c.connection = .opened headers → c.configuredHeaders = .ok headers

theorem Effect.configured {endpoint : String} {config : ClientConfig} {t : Transport τ}
    {c c' : Client τ} (h : Effect t c c') (hc : Configured endpoint config c) :
    Configured endpoint config c' := by
  cases h with
  | nothing => exact hc
  | @opened headers carrier hconnect hcarrier =>
    refine ⟨hc.endpoint_eq, hc.config_eq, ?_⟩
    rintro _ ⟨⟩
    rcases (connect_of_ok hconnect).2 with hopened | ⟨_, hheaders⟩
    · exact hc.headers_eq headers hopened
    · exact hheaders

/-- Every action keeps the settings and the headers. -/
theorem configured_perform {endpoint : String} {config : ClientConfig} (t : Transport τ)
    {c : Client τ} (hc : Configured endpoint config c) (action : Action) :
    Configured endpoint config (c.perform t action).2 := by
  by_cases haction : action = .shutDown
  · subst haction
    exact ⟨hc.endpoint_eq, hc.config_eq, fun _ h => nomatch h⟩
  · exact (effect_perform t c haction).configured hc

/-- At most one request is sent. -/
theorem Effect.single {t : Transport τ} {c c' : Client (τ × List Trip)}
    (h : Effect t.transcribing c c') :
    ∃ trips, trips.length ≤ 1 ∧ c'.carrier.2 = c.carrier.2 ++ trips := by
  cases h with
  | nothing => exact ⟨[], Nat.zero_le _, (List.append_nil _).symm⟩
  | opened hconnect hcarrier =>
    rcases hcarrier with rfl | ⟨request, rfl⟩
    · exact ⟨[], Nat.zero_le _, (List.append_nil _).symm⟩
    · exact ⟨[_], Nat.le_refl _, rfl⟩

/-- An action lets the life of the client go on, or stay where it is. -/
theorem moves_perform (t : Transport τ) (c : Client τ) (action : Action) :
    (c.perform t action).2.connection = c.connection ∨
      c.connection.Moves (c.perform t action).2.connection := by
  by_cases haction : action = .shutDown
  · subst haction
    show .shutDown = c.connection ∨ c.connection.Moves .shutDown
    cases c.connection with
    | idle => exact .inr .dismissed
    | opened headers => exact .inr (.closes headers)
    | shutDown => exact .inl rfl
  · exact (effect_perform t c haction).moves

/-- An action sends at most one request. -/
theorem single_perform (t : Transport τ) (c : Client (τ × List Trip)) (action : Action) :
    ∃ trips : List Trip, trips.length ≤ 1 ∧
      (c.perform t.transcribing action).2.carrier.2 = c.carrier.2 ++ trips := by
  by_cases haction : action = .shutDown
  · subst haction
    exact ⟨[], Nat.zero_le _, (List.append_nil _).symm⟩
  · exact (effect_perform t.transcribing c haction).single

/-! ## After the end -/

/-- After the end an action changes nothing. -/
theorem perform_of_shutDown (t : Transport τ) {c : Client τ} (hc : c.connection = .shutDown)
    (action : Action) : (c.perform t action).2 = c := by
  by_cases haction : action = .shutDown
  · subst haction
    obtain ⟨endpoint, config, connection, carrier⟩ := c
    exact congrArg (Client.mk endpoint config · carrier) hc.symm
  · exact (effect_perform t c haction).eq_of_shutDown hc

theorem performAll_of_shutDown (t : Transport τ) {c : Client τ} (hc : c.connection = .shutDown)
    (actions : List Action) : c.performAll t actions = c := by
  induction actions with
  | nil => rfl
  | cons action actions ih => rw [performAll_cons, perform_of_shutDown t hc, ih]

/-- The end comes with the first action that shuts the client down, and not before. -/
theorem connection_performAll_iff (t : Transport τ) {c : Client τ} (hc : c.connection ≠ .shutDown)
    (actions : List Action) :
    (c.performAll t actions).connection = .shutDown ↔ .shutDown ∈ actions := by
  induction actions generalizing c with
  | nil => simpa [performAll] using hc
  | cons action actions ih =>
    rw [performAll_cons, List.mem_cons]
    by_cases haction : action = .shutDown
    · subst haction
      have hended : (c.perform t .shutDown).2.connection = .shutDown := rfl
      simp [performAll_of_shutDown t hended, hended]
    · rw [ih ((effect_perform t c haction).alive hc)]
      simp [Ne.symm haction]

/-- After the end nothing that needs a connection succeeds. -/
theorem refused_of_shutDown (t : Transport τ) {c : Client τ} (hc : c.connection = .shutDown)
    {action : Action} (haction : action.needsLife = true) :
    (c.perform t action).1 = .error c.afterShutdown := by
  have hroute : c.route = .error c.afterShutdown := by simp [route, connect, hc]
  cases action with
  | prepare => simp [perform, prepare, isShutDown, hc, Delayed.now]
  | select query base? budget? =>
    simp [perform, service, submit_of_route_error hroute, understand, Delayed.now, Except.bind,
      Except.map]
  | ask query base? budget? =>
    simp [perform, service, submit_of_route_error hroute, understand, Delayed.now, Except.bind,
      Except.map]
  | evaluate form query row base? declared => simp [Action.needsLife] at haction
  | shutDown => simp [Action.needsLife] at haction

/-! ## Actions that fail early -/

/-- Preparing a client fails without a trace if its endpoint or its headers are not acceptable. -/
theorem prepare_of_unacceptable (t : Transport τ) {endpoint : String} {config : ClientConfig}
    {c : Client τ} (hc : Configured endpoint config c)
    (h : (∃ e, c.parseEndpoint = .error e) ∨ ∃ e, c.configuredHeaders = .error e) :
    ∃ e, c.perform t .prepare = (.error e, c) := by
  show ∃ e, ((c.prepare t).1.value, (c.prepare t).2) = _
  unfold prepare
  split
  · exact ⟨_, rfl⟩
  · next hlive =>
    split
    · exact ⟨_, rfl⟩
    · next url hurl =>
      obtain ⟨e, he⟩ := h.resolve_left (by simp [hurl])
      have hconnect : c.connect = (.error e, c) := by
        cases hconnection : c.connection with
        | idle => simp [connect, hconnection, he]
        | opened headers => simp [hc.headers_eq headers hconnection] at he
        | shutDown => simp [isShutDown, hconnection] at hlive
      rw [hconnect]
      exact ⟨e, rfl⟩

/-! ## Main result -/

/-- What holds of an action of a client that has gone through the actions `before`. -/
structure KeepsLifecycle (t : Transport τ) (endpoint : String) (config : ClientConfig)
    (before : List Action) (c : Client (τ × List Trip)) (action : Action) : Prop where
  /-- The client still has its endpoint and its settings. -/
  settings : c.endpoint = endpoint ∧ c.config = config
  /-- The connection stays as it is, or goes on as it may. -/
  moves : (c.perform t.transcribing action).2.connection = c.connection ∨
    c.connection.Moves (c.perform t.transcribing action).2.connection
  /-- At most one request is sent. -/
  single : ∃ trips : List Trip, trips.length ≤ 1 ∧
    (c.perform t.transcribing action).2.carrier.2 = c.carrier.2 ++ trips
  /-- The client has been shut down if that has been done. -/
  ended : c.connection = .shutDown ↔ .shutDown ∈ before
  /-- After that nothing changes any more and no request is sent, whatever is done with it. -/
  lasting : .shutDown ∈ before → ∀ later, c.performAll t.transcribing later = c
  /-- Nor does anything succeed that needs a connection. -/
  refused : .shutDown ∈ before → action.needsLife = true →
    ∃ detail, (c.perform t.transcribing action).1 = .error (.connection detail)
  /-- It can always be shut down. -/
  closing : action = .shutDown → (c.perform t.transcribing action).1 = .ok ()
  /-- Preparing it fails without a trace if its endpoint or a header is not acceptable. -/
  unprepared : action = .prepare →
    (∃ e, c.parseEndpoint = .error e) ∨ (∃ h ∈ c.config.headers, Headers.isSendable h = false) ∨
      isHeaderValue c.config.userAgent = false →
    ∃ e, c.perform t.transcribing action = (.error e, c)
  /-- A query into which the values of a row cannot be put fails without a trace. -/
  unbound : ∀ form query row base? declared e, action = .evaluate form query row base? declared →
    preBind query row declared = .error e → c.perform t.transcribing action = (.error e, c)

/-- **The life of a client.** Whatever has been done with a client and whatever it has been answered,
its connection is opened and closed at most once, it sends at most one request for an action and
none after it has been shut down, and it stays as it was if it cannot be prepared or is given a query
into which the values of a row cannot be put.

**Proof sketch.** What an action may change is the same for all (`effect_perform`); what it may
answer is read off each. That an open connection has the headers of the settings holds along every
run, so a header that may not be sent is noticed by every client that is alive. -/
theorem client_keeps_lifecycle (t : Transport τ) (endpoint : String) (config : ClientConfig)
    (carrier : τ) (before : List Action) (action : Action) :
    KeepsLifecycle t endpoint config before
      ((new endpoint config (carrier, [])).performAll t.transcribing before) action := by
  have hnew : (new endpoint config (carrier, ([] : List Trip))).connection ≠ .shutDown :=
    Connection.noConfusion
  have hconfigured : Configured endpoint config
      ((new endpoint config (carrier, [])).performAll t.transcribing before) :=
    performAll_induction (motive := Configured endpoint config)
      (fun _ action hc => configured_perform t.transcribing hc action)
      ⟨rfl, rfl, fun _ h => Connection.noConfusion h⟩ before
  have hended := connection_performAll_iff t.transcribing hnew before
  generalize (new endpoint config (carrier, [])).performAll t.transcribing before = c at *
  exact {
    settings := ⟨hconfigured.endpoint_eq, hconfigured.config_eq⟩
    moves := moves_perform t.transcribing c action
    single := single_perform t c action
    ended := hended
    lasting h := performAll_of_shutDown t.transcribing (hended.2 h)
    refused h haction := ⟨_, refused_of_shutDown t.transcribing (hended.2 h) haction⟩
    closing h := by rw [h]; rfl
    unprepared h hcause := by
      rw [h]
      refine prepare_of_unacceptable t.transcribing hconfigured (hcause.imp_right fun hheaders => ?_)
      exact configuredHeaders_eq_error_iff.2 hheaders
    unbound form query row base? declared e h hbind := by
      rw [h, perform]
      rcases runToEnd_evaluateRow t.transcribing c form query row base? declared with
        ⟨e', he', hrun⟩ | ⟨text, htext, _⟩
      · rw [hbind] at he'
        obtain rfl := Except.error.inj he'
        simp [hrun, Except.map]
      · rw [hbind] at htext
        cases htext }

end Client

end ServiceClause.Http
