import ServiceClause.Proofs.Http.Requests

/-!
# How long a client waits

Two durations may limit a request: the budget of the call and the time for requests that the client
is configured with. A client whose request is not answered waits as long as the budget allows, if
there is one, and otherwise as long as it is configured to, and then reports this duration. It is
the shorter of the two unless the budget is the longer one, which then takes the place of the time
for requests.

## Main definitions

* `ServiceClause.Http.Client.IsUnanswered` — a call of a live client whose request is not answered.
* `ServiceClause.Http.Client.limits` — the durations that limit the request for a call.

## Main statements

* `ServiceClause.Http.Client.service_of_isUnanswered` — how a call ends that is not answered.
* `ServiceClause.Http.Client.min?_limits_eq_some_iff` — when the budget, or else the time for
  requests, is the shortest limit.
* `ServiceClause.Http.Client.unanswered_call_ends` — both together.
-/

set_option autoImplicit false

namespace ServiceClause.Http.Client

variable {τ : Type}

/-- The client is alive, so that it sends a request for the call, and this is never answered. -/
def IsUnanswered (t : Transport τ) (c : Client τ) (call : Call) : Prop :=
  ∃ url headers, c.route = .ok (url, headers) ∧
    (t.send (request url headers (withBase call.query call.base?)) c.carrier).1 = .unanswered

/-- The durations that limit the request for a call. -/
def limits (c : Client τ) (call : Call) : List Duration :=
  call.budget?.toList ++ c.config.requestTimeout.toList

variable {t : Transport τ} {c : Client τ} {call : Call} {d : Duration}

theorem exists_or_eq_some (h : c.limits call ≠ []) :
    ∃ d, call.budget?.or c.config.requestTimeout = some d := by
  unfold limits at h
  cases hbudget : call.budget? with
  | some budget => exact ⟨budget, rfl⟩
  | none =>
    cases hlimit : c.config.requestTimeout with
    | some limit => exact ⟨limit, rfl⟩
    | none => simp [hbudget, hlimit] at h

/-- A call that is not answered ends after its budget or, without one, after the time for requests,
and reports this duration. -/
theorem service_of_isUnanswered (h : c.IsUnanswered t call)
    (hd : call.budget?.or c.config.requestTimeout = some d) :
    ((service t).select call c).1 = ⟨d, .error (.timeout d)⟩ ∧
      ((service t).ask call c).1 = ⟨d, .error (.timeout d)⟩ := by
  obtain ⟨url, headers, hroute, hreply⟩ := h
  have hsubmit : (c.submit t call).1 = ⟨d, .error (.timeout d)⟩ := by
    rw [submit_of_route hroute, hreply, hd]
    rfl
  constructor
  · show understand Solutions.read (c.submit t call).1 = _
    rw [hsubmit]
    rfl
  · show understand readTruth (c.submit t call).1 = _
    rw [hsubmit]
    rfl

/-- The budget or, without one, the time for requests is the shortest limit unless both are given
and the budget is the longer one. -/
theorem min?_limits_eq_some_iff (hd : call.budget?.or c.config.requestTimeout = some d) :
    (c.limits call).min? = some d ↔ ∀ budget limit, call.budget? = some budget →
      c.config.requestTimeout = some limit → budget ≤ limit := by
  unfold limits
  cases hbudget : call.budget? with
  | none =>
    rw [hbudget, Option.none_or] at hd
    simp [hd]
  | some budget =>
    rw [hbudget, Option.some_or] at hd
    obtain rfl := Option.some.inj hd
    cases hlimit : c.config.requestTimeout with
    | none => simp
    | some limit =>
      have hmin : [budget, limit].min? = some (if limit < budget then limit else budget) := rfl
      rw [Option.toList_some, Option.toList_some, List.singleton_append, hmin, Option.some.injEq]
      by_cases hlonger : limit < budget
      · rw [if_pos hlonger]
        constructor
        · rintro rfl
          exact absurd hlonger (Nat.lt_irrefl _)
        · intro hle
          exact absurd hlonger (Nat.not_lt_of_le (hle budget limit rfl rfl))
      · rw [if_neg hlonger]
        refine ⟨fun _ budget' limit' hbudget' hlimit' => ?_, fun _ => rfl⟩
        obtain rfl := Option.some.inj hbudget'
        obtain rfl := Option.some.inj hlimit'
        exact Nat.le_of_not_lt hlonger

/-- **Which limit ends a call that is not answered.** A query for rows or for a truth value by a
live client whose request is never answered ends after the budget of the call if it has one, and
otherwise after the time for requests, with an error that names this duration. Of the durations
given this is the shortest, unless both are given and the budget is longer than the time for
requests.

**Proof sketch.** The request is sent, and what the call gives is decided by the reply alone
(`submit_of_route`). -/
theorem unanswered_call_ends (t : Transport τ) (c : Client τ) (call : Call)
    (h : c.IsUnanswered t call) (hgiven : c.limits call ≠ []) :
    ∃ d, call.budget?.or c.config.requestTimeout = some d ∧
      ((service t).select call c).1 = ⟨d, .error (.timeout d)⟩ ∧
      ((service t).ask call c).1 = ⟨d, .error (.timeout d)⟩ ∧
      ((c.limits call).min? = some d ↔ ∀ budget limit, call.budget? = some budget →
        c.config.requestTimeout = some limit → budget ≤ limit) := by
  obtain ⟨d, hd⟩ := exists_or_eq_some hgiven
  obtain ⟨hselect, hask⟩ := service_of_isUnanswered h hd
  exact ⟨d, hd, hselect, hask, min?_limits_eq_some_iff hd⟩

/-- A client that is to wait a tenth of a second, with an endpoint that does not answer. -/
def hastyClient : Client (List Reply × List Request) :=
  new "http://example.org/sparql" { requestTimeout := some (.ofMilliseconds 100) }
    ([.unanswered], [])

/-- A call that may take longer. -/
def lavishCall : Call :=
  ⟨.select, "SELECT * WHERE \x7b ?s ?p ?o \x7d", none, some (.ofMilliseconds 150)⟩

theorem isUnanswered_lavishCall : hastyClient.IsUnanswered Transport.scripted lavishCall := by
  have hroute : hastyClient.route.toOption.isSome = true := by decide +kernel
  cases h : hastyClient.route with
  | error e => simp [h, Except.toOption] at hroute
  | ok route => exact ⟨route.1, route.2, h, rfl⟩

/-- The call ends after its budget. -/
theorem lavishCall_ends :
    ((service Transport.scripted).select lavishCall hastyClient).1 =
        ⟨.ofMilliseconds 150, .error (.timeout (.ofMilliseconds 150))⟩ ∧
      ((service Transport.scripted).ask lavishCall hastyClient).1 =
        ⟨.ofMilliseconds 150, .error (.timeout (.ofMilliseconds 150))⟩ := by
  obtain ⟨d, hd, hselect, hask, -⟩ := unanswered_call_ends Transport.scripted hastyClient
    lavishCall isUnanswered_lavishCall (by decide)
  obtain rfl := Option.some.inj hd
  exact ⟨hselect, hask⟩

/-- The time for requests is the shorter limit, and yet the call ends after its budget only. -/
theorem request_timeout_exceeded :
    hastyClient.IsUnanswered Transport.scripted lavishCall ∧
      (hastyClient.limits lavishCall).min? = some (.ofMilliseconds 100) ∧
      ((service Transport.scripted).select lavishCall hastyClient).1.value ≠
        .error (.timeout (.ofMilliseconds 100)) ∧
      ((service Transport.scripted).select lavishCall hastyClient).1.value =
        .error (.timeout (.ofMilliseconds 150)) := by
  obtain ⟨hselect, -⟩ := service_of_isUnanswered isUnanswered_lavishCall
    (d := .ofMilliseconds 150) rfl
  refine ⟨isUnanswered_lavishCall, by decide, ?_, congrArg Delayed.value hselect⟩
  rw [congrArg Delayed.value hselect]
  exact fun h => absurd (Except.error.inj h) (by decide)

end ServiceClause.Http.Client
