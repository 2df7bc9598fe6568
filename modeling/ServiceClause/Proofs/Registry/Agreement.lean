import ServiceClause.Proofs.Registry.Contests

/-!
# Racing callers agree

All calls of a race for an endpoint that succeed give the same client, a call that fails has changed
nothing, and what happens at one endpoint depends only on the calls for it.

## Main definitions

* `ServiceClause.Race.SameAt` — two races differ only in the calls for other endpoints.

## Main statements

* `ServiceClause.Race.entries_of_error` — no step of a call that fails changes an entry.
* `ServiceClause.Race.races_agree` — the calls for an endpoint agree, whatever the others do.
-/

set_option autoImplicit false

namespace ServiceClause

namespace Race

variable {κ κ' : Type}

/-! ## Calls that end -/

/-- A call that has ended stays so. -/
theorem result?_next {x : Race κ} {call other : Nat} {result : Outcome ClientId}
    (h : x.result? call = some result) : (x.next other).result? call = some result := by
  obtain ⟨a, ha, hended⟩ := Option.bind_eq_some_iff.1 h
  by_cases hsame : call = other
  · subst hsame
    have hlt : call < x.final.acquisitions.length := (List.getElem?_eq_some_iff.1 ha).1
    cases a with
    | ended given =>
      rw [result?, final_next]
      simp only [SharedRegistry.after, ha]
      rw [List.getElem?_set_self hlt]
      exact hended
    | _ => simp [Acquisition.result?] at hended
  · rw [result?, acquisitions_next_of_ne hsame]
    exact h

theorem result?_append {x : Race κ} {call : Nat} {result : Outcome ClientId}
    (h : x.result? call = some result) (later : List Nat) :
    ({ x with schedule := x.schedule ++ later } : Race κ).result? call = some result := by
  induction later using List.reverseRecOn with
  | nil =>
    rw [List.append_nil]
    exact h
  | append_singleton later other ih =>
    rw [← List.append_assoc]
    exact result?_next ih

/-- A call ends after three steps. -/
theorem exists_result {x : Race κ} {call : Nat} {endpoint : String}
    (hcall : x.calls[call]? = some endpoint) (hsteps : 3 ≤ x.schedule.count call) :
    ∃ result, x.result? call = some result := by
  obtain ⟨a, ha, _⟩ := x.orderly.stands call endpoint hcall
  have hleft := x.orderly.progress call a ha
  cases a with
  | ended result => exact ⟨result, by rw [result?, ha]; rfl⟩
  | _ => simp only [Acquisition.stepsLeft] at hleft; omega

/-- What a call for an endpoint has come to when it has ended. -/
theorem stands_of_result {x : Race κ} {call : Nat} {endpoint : String} {result : Outcome ClientId}
    (hcall : x.calls[call]? = some endpoint) (h : x.result? call = some result) :
    x.Stands endpoint call (.ended result) := by
  obtain ⟨a, ha, hstands⟩ := x.orderly.stands call endpoint hcall
  rw [result?, ha] at h
  cases a with
  | ended given =>
    obtain rfl := Option.some.inj h
    exact hstands
  | _ => simp [Acquisition.result?] at h

/-- A call that has had its candidate initialized succeeds. -/
theorem succeeds_of_committed (x : Race κ) {call : Nat} {id : ClientId} {endpoint : String}
    (hcall : x.calls[call]? = some endpoint) (h : (call, .committed id) ∈ x.history) :
    ∃ given, x.result? call = some (.ok given) := by
  induction x using Race.induction with
  | hstart l r calls => simp [history, SharedRegistry.history] at h
  | hnext x other ih =>
    rw [history_next] at h
    rcases List.mem_append.1 h with hbefore | hnow
    · obtain ⟨given, hgiven⟩ := ih hcall hbefore
      exact ⟨given, result?_next hgiven⟩
    · rw [Option.mem_toList] at hnow
      obtain rfl : other = call := by
        rw [SharedRegistry.milestone?] at hnow
        obtain ⟨m, -, heq⟩ := Option.map_eq_some_iff.1 hnow
        exact (Prod.mk.inj heq).1
      obtain ⟨a, m?, a', ha, -, hadvances, hacquisitions, hmilestone⟩ :=
        next_of_call x.orderly hcall
      have hlt : other < x.final.acquisitions.length := (List.getElem?_eq_some_iff.1 ha).1
      obtain ⟨m, hm, heq⟩ := Option.map_eq_some_iff.1 (hmilestone.symm.trans hnow)
      obtain rfl : m = .committed id := (Prod.mk.inj heq).2
      rw [result?, hacquisitions, List.getElem?_set_self hlt]
      generalize (x.next other).final.registry.entries = entries at hadvances
      cases hadvances with
      | loses => cases hm; exact ⟨_, rfl⟩
      | wins => cases hm; exact ⟨_, rfl⟩
      | _ => cases hm

/-- An endpoint for which no call succeeds has the client that it had before. -/
theorem client?_of_no_success {x : Race κ} {endpoint : String}
    (h : ∀ call id, x.calls[call]? = some endpoint → x.result? call ≠ some (.ok id)) :
    x.client? endpoint = x.registry.get? endpoint := by
  rw [x.orderly.entries]
  cases hfirst : x.firstCommitted? endpoint with
  | none => exact Option.or_none
  | some id =>
    obtain ⟨⟨call, m⟩, hmem, hcandidate⟩ := List.exists_of_findSome?_eq_some hfirst
    cases m with
    | made fate => simp [candidate?] at hcandidate
    | committed other =>
      have hcall : x.calls[call]? = some endpoint := by
        by_contra hne
        simp [candidate?, hne] at hcandidate
      obtain ⟨given, hgiven⟩ := x.succeeds_of_committed hcall hmem
      exact absurd hgiven (h call given hcall)

/-- A step with which no call succeeds changes no entry. -/
theorem entries_next {x : Race κ} {call : Nat} {endpoint : String}
    (hcall : x.calls[call]? = some endpoint)
    (h : ∀ id, (x.next call).result? call ≠ some (.ok id)) :
    (x.next call).final.registry.entries = x.final.registry.entries := by
  obtain ⟨a, m?, a', ha, -, hadvances, hacquisitions, -⟩ := next_of_call x.orderly hcall
  have hlt : call < x.final.acquisitions.length := (List.getElem?_eq_some_iff.1 ha).1
  rw [result?, hacquisitions, List.getElem?_set_self hlt] at h
  generalize (x.next call).final.registry.entries = entries at hadvances ⊢
  cases hadvances with
  | @wins id => exact absurd rfl (h id)
  | _ => rfl

/-- No step of a call that fails changes an entry. -/
theorem entries_of_error {x : Race κ} {call : Nat} {endpoint : String} {e : FederationError}
    (hcall : x.calls[call]? = some endpoint) (h : x.result? call = some (.error e))
    {earlier later : List Nat} (hsteps : x.schedule = earlier ++ call :: later) :
    ({ x with schedule := earlier ++ [call] } : Race κ).final.registry.entries =
      ({ x with schedule := earlier } : Race κ).final.registry.entries := by
  refine entries_next (x := { x with schedule := earlier }) hcall fun id hid => ?_
  have hlater := result?_append hid later
  have hsame : earlier ++ [call] ++ later = x.schedule := by simp [hsteps]
  simp only [next, hsame] at hlater
  rw [h] at hlater
  cases hlater

/-! ## Main result -/

/-- Whether clients of two races are alike to the calls for an endpoint: both were registered
before, or both are candidates of the same call. -/
def SameClient (x : Race κ) (y : Race κ') (endpoint : String) (id id' : ClientId) : Prop :=
  ∃ winner, x.Names endpoint winner id ∧ y.Names endpoint winner id'

/-- Whether results of two races are alike to the calls for an endpoint. -/
inductive SameResult (x : Race κ) (y : Race κ') (endpoint : String) :
    Outcome ClientId → Outcome ClientId → Prop where
  /-- Both have the same error. -/
  | error (e : FederationError) : SameResult x y endpoint (.error e) (.error e)
  /-- Both have the same client. -/
  | ok {id id' : ClientId} (h : x.SameClient y endpoint id id') :
    SameResult x y endpoint (.ok id) (.ok id')

/-- Whether two races differ only in the calls for other endpoints. -/
structure SameAt (x : Race κ) (y : Race κ') (endpoint : String) : Prop where
  /-- The same calls are for the endpoint. -/
  calls : ∀ call : Nat, x.calls[call]? = some endpoint ↔ y.calls[call]? = some endpoint
  /-- They take steps in the same order. -/
  steps : x.stepsAt endpoint = y.stepsAt endpoint
  /-- Both registries have a client for the endpoint before, or neither has. -/
  before : (x.registry.get? endpoint).isSome = (y.registry.get? endpoint).isSome
  /-- The candidates of the calls for the endpoint have the same fates. -/
  fates : ∃ fate, x.Meets endpoint fate ∧ y.Meets endpoint fate

theorem SameAt.contest {x : Race κ} {y : Race κ'} {endpoint : String} (h : x.SameAt y endpoint)
    (fate : Nat → Fate) : x.contest endpoint fate = y.contest endpoint fate := by
  have hbefore : (x.registry.get? endpoint).map (fun _ => Winner.before) =
      (y.registry.get? endpoint).map fun _ => Winner.before := by
    have hsome := h.before
    cases hx : x.registry.get? endpoint <;> cases hy : y.registry.get? endpoint <;>
      simp_all
  rw [Race.contest, Race.contest, h.steps, hbefore]

theorem rel_sameClient {x : Race κ} {y : Race κ'} {endpoint : String} {winner? : Option Winner}
    {id? id?' : Option ClientId} (hx : Option.Rel (x.Names endpoint) winner? id?)
    (hy : Option.Rel (y.Names endpoint) winner? id?') :
    Option.Rel (x.SameClient y endpoint) id? id?' := by
  cases hx with
  | none => cases hy with | none => exact .none
  | some hnames => cases hy with | some hnames' => exact .some ⟨_, hnames, hnames'⟩

/-- The calls for an endpoint do not see the calls for other ones. -/
theorem same_of_sameAt {x : Race κ} {y : Race κ'} {endpoint : String} (h : x.SameAt y endpoint) :
    Option.Rel (x.SameClient y endpoint) (x.client? endpoint) (y.client? endpoint) ∧
      ∀ call, x.calls[call]? = some endpoint →
        Option.Rel (x.SameResult y endpoint) (x.result? call) (y.result? call) := by
  obtain ⟨fate, hx, hy⟩ := h.fates
  have hmx := x.mirrors_contest hx
  have hmy := y.mirrors_contest hy
  rw [← h.contest fate] at hmy
  generalize x.contest endpoint fate = c at hmx hmy
  refine ⟨rel_sameClient hmx.entry hmy.entry, fun call hcall => ?_⟩
  have hcall' := (h.calls call).1 hcall
  obtain ⟨a, ha, -⟩ := x.orderly.stands call endpoint hcall
  obtain ⟨b, hb, -⟩ := y.orderly.stands call endpoint hcall'
  have hshows := hmx.calls call a hcall ha
  have hshows' := hmy.calls call b hcall' hb
  rw [result?, result?, ha, hb, Option.bind_some, Option.bind_some]
  generalize c.phase call = phase at hshows hshows'
  cases hshows with
  | requested => cases hshows' with | requested => exact .none
  | missing => cases hshows' with | missing => exact .none
  | initializing => cases hshows' with | initializing => exact .none
  | failed => cases hshows' with | failed => exact .some (.error _)
  | succeeded hentry hwinner =>
    cases hshows' with
    | succeeded hentry' =>
      have hrel := rel_sameClient hmx.entry hmy.entry
      rw [hentry, hentry'] at hrel
      cases hrel with
      | some hsame => exact .some (.ok hsame)

/-- **Racing callers agree.** Any number of callers ask a registry for clients at once, and nothing
else happens to it. Their steps come in any order, and any candidate may fail to be made or to be
initialized. Then, for every endpoint:

* a call has ended after three steps of its own;
* every call that succeeds gives the client that is registered in the end, and this is the one that
  was registered before, or else the first candidate that was to be registered;
* if no call succeeds, whatever was registered before still is;
* a call that fails has the error of its own candidate, and none of its steps has changed an entry;
* the results of the calls and the client that is registered are those of any other race that
  differs only in the calls for other endpoints and in what was registered for these.

**Proof sketch.** The first four hold in every orderly race (`orderly`). As for the last, what
happens at an endpoint is a contest that only the calls for it take part in (`mirrors_contest`). -/
theorem races_agree (x : Race κ) (endpoint : String) :
    (∀ call : Nat, x.calls[call]? = some endpoint → 3 ≤ x.schedule.count call →
      ∃ result, x.result? call = some result) ∧
    (∀ (call : Nat) (id : ClientId), x.calls[call]? = some endpoint →
      x.result? call = some (.ok id) → x.client? endpoint = some id ∧
        (x.registry.get? endpoint).or (x.firstCommitted? endpoint) = some id) ∧
    ((∀ (call : Nat) (id : ClientId), x.calls[call]? = some endpoint →
      x.result? call ≠ some (.ok id)) → x.client? endpoint = x.registry.get? endpoint) ∧
    (∀ (call : Nat) (e : FederationError), x.calls[call]? = some endpoint →
      x.result? call = some (.error e) →
      (∃ fate, (call, .made fate) ∈ x.history ∧ (fate = .error e ∨ fate = .ok (.error e))) ∧
      ∀ earlier later, x.schedule = earlier ++ call :: later →
        ({ x with schedule := earlier ++ [call] } : Race κ).final.registry.entries =
          ({ x with schedule := earlier } : Race κ).final.registry.entries) ∧
    ∀ (κ' : Type) (y : Race κ'), x.SameAt y endpoint →
      Option.Rel (x.SameClient y endpoint) (x.client? endpoint) (y.client? endpoint) ∧
      ∀ call : Nat, x.calls[call]? = some endpoint →
        Option.Rel (x.SameResult y endpoint) (x.result? call) (y.result? call) := by
  refine ⟨fun call hcall hsteps => exists_result hcall hsteps, fun call id hcall h => ?_,
    client?_of_no_success, fun call e hcall h => ⟨?_, fun earlier later hsteps =>
      entries_of_error hcall h hsteps⟩, fun κ' y h => same_of_sameAt h⟩
  · cases stands_of_result hcall h with
    | succeeded hentry => exact ⟨hentry, (x.orderly.entries endpoint).symm.trans hentry⟩
  · cases stands_of_result hcall h with
    | failed hmade hfate => exact ⟨_, hmade, hfate⟩

/-- Two callers ask for the client of `http://example.org/a`, and others for other clients. The
first candidate for this endpoint cannot be initialized. -/
def contenders (others : List String) (schedule : List Nat) : Race ScriptedClient where
  lifecycle := ScriptedClient.lifecycle
  registry := .empty
    ⟨[⟨some "http://example.org/a", some 1,
        fun endpoint => .ok ⟨endpoint, .now (.error (.connection "refused")), .ok ()⟩⟩],
      fun endpoint => ⟨endpoint, .now (.ok ()), .ok ()⟩⟩
  calls := "http://example.org/a" :: "http://example.org/a" :: others
  schedule := schedule

theorem sameAt_contenders :
    (contenders ["http://example.org/b"] [0, 2, 1, 2, 0, 1, 1, 0, 2]).SameAt
      (contenders [] [0, 1, 0, 1, 1, 0]) "http://example.org/a" := by
  have hx : (contenders ["http://example.org/b"] [0, 2, 1, 2, 0, 1, 1, 0, 2]).history =
      [(2, .made (.ok (.ok ()))), (0, .made (.ok (.error (.connection "refused")))),
        (1, .made (.ok (.ok ()))), (1, .committed 2), (2, .committed 0)] := rfl
  have hy : (contenders [] [0, 1, 0, 1, 1, 0]).history =
      [(0, .made (.ok (.error (.connection "refused")))), (1, .made (.ok (.ok ()))),
        (1, .committed 1)] := rfl
  refine ⟨fun call => ?_, rfl, rfl,
    fun call => .ok (if call = 0 then .error (.connection "refused") else .ok ()),
    fun call met hcall hmade => ?_, fun call met hcall hmade => ?_⟩
  · match call with
    | 0 | 1 => exact iff_of_true rfl rfl
    | 2 => exact iff_of_false (by decide) (by decide)
    | _ + 3 => exact Iff.rfl
  · rw [hx] at hmade
    match call with
    | 0 | 1 => simpa using hmade
    | 2 => exact absurd hcall (by decide)
    | _ + 3 => simp at hmade
  · rw [hy] at hmade
    match call with
    | 0 | 1 => simpa using hmade
    | _ + 2 => simp at hmade

/-- The first call fails, and the second one has its candidate registered, which is the third
candidate if another endpoint is asked for too, and the second one if not. If only the first call
takes steps, nothing is registered. -/
theorem contenders_agree :
    (∃ result, (contenders ["http://example.org/b"] [0, 2, 1, 2, 0, 1, 1, 0, 2]).result? 1 =
      some result) ∧
    (contenders ["http://example.org/b"] [0, 2, 1, 2, 0, 1, 1, 0, 2]).client?
      "http://example.org/a" = some 2 ∧
    (∃ fate, (0, .made fate) ∈
        (contenders ["http://example.org/b"] [0, 2, 1, 2, 0, 1, 1, 0, 2]).history ∧
      (fate = .error (.connection "refused") ∨ fate = .ok (.error (.connection "refused")))) ∧
    Option.Rel ((contenders ["http://example.org/b"] [0, 2, 1, 2, 0, 1, 1, 0, 2]).SameClient
      (contenders [] [0, 1, 0, 1, 1, 0]) "http://example.org/a") (some 2) (some 1) ∧
    (contenders [] [0, 0, 0]).client? "http://example.org/a" = none := by
  obtain ⟨hends, hsucceeds, -, hfails, hsame⟩ := races_agree
    (contenders ["http://example.org/b"] [0, 2, 1, 2, 0, 1, 1, 0, 2]) "http://example.org/a"
  obtain ⟨-, -, hunchanged, -⟩ := races_agree (contenders [] [0, 0, 0]) "http://example.org/a"
  refine ⟨hends 1 rfl (by decide), (hsucceeds 1 2 rfl rfl).1, (hfails 0 _ rfl rfl).1,
    (hsame _ _ sameAt_contenders).1, hunchanged fun call id hcall h => ?_⟩
  match call with
  | 0 | 1 => cases h
  | _ + 2 => cases hcall

end Race

end ServiceClause
