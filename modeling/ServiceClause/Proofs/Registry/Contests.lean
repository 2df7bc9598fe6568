import ServiceClause.Proofs.Registry.Races

/-!
# Contests for an endpoint

The calls for one endpoint of a race see neither the other calls nor the identities of the clients.
What they do see is a contest: whoever commits a candidate first wins, unless a client was
registered before. A step of such a call is a step of the contest, and any other step leaves the
contest as it is.

## Main definitions

* `ServiceClause.Contest` — a race as the calls for one endpoint see it.
* `ServiceClause.Race.contest` — the contest that the steps of a race lead to.
* `ServiceClause.Race.Mirrors` — a contest shows what has happened at an endpoint.

## Main statements

* `ServiceClause.Race.mirrors_contest` — what happens at an endpoint is a contest of its calls.
-/

set_option autoImplicit false

namespace ServiceClause

/-- A client as the calls for one endpoint see it. -/
inductive Winner where
  /-- The client that was registered before. -/
  | before
  /-- The candidate of a call. -/
  | candidate (call : Nat)

/-- What a call has come to, as the calls for its endpoint see it. -/
inductive CallPhase where
  /-- It has not begun. -/
  | requested
  /-- It has found no client. -/
  | missing
  /-- Its candidate has been made. -/
  | initializing
  /-- It has ended. -/
  | ended (result : Outcome Winner)

/-- A race as the calls for one endpoint see it. -/
structure Contest where
  /-- The client that is registered. -/
  winner? : Option Winner
  /-- What every call has come to. -/
  phase : Nat → CallPhase

namespace Contest

/-- The contest when a call has come to a phase. -/
def enter (c : Contest) (call : Nat) (phase : CallPhase) : Contest :=
  { c with phase := fun other => if other = call then phase else c.phase other }

/-- The contest after a step of a call. `fate` says what becomes of the candidates. -/
def step (fate : Nat → Fate) (c : Contest) (call : Nat) : Contest :=
  match c.phase call, fate call with
  | .requested, _ =>
    match c.winner? with
    | some winner => c.enter call (.ended (.ok winner))
    | none => c.enter call .missing
  | .missing, .error e => c.enter call (.ended (.error e))
  | .missing, .ok _ => c.enter call .initializing
  | .initializing, .ok (.ok ()) =>
    { c.enter call (.ended (.ok (c.winner?.getD (.candidate call)))) with
      winner? := some (c.winner?.getD (.candidate call)) }
  | .initializing, .ok (.error e) => c.enter call (.ended (.error e))
  | .initializing, .error e => c.enter call (.ended (.error e))
  | .ended _, _ => c

@[simp]
theorem phase_enter_self (c : Contest) (call : Nat) (phase : CallPhase) :
    (c.enter call phase).phase call = phase := by
  simp [enter]

theorem phase_enter_of_ne {c : Contest} {call other : Nat} {phase : CallPhase} (h : other ≠ call) :
    (c.enter call phase).phase other = c.phase other := by
  simp [enter, h]

theorem phase_step_of_ne (fate : Nat → Fate) (c : Contest) {call other : Nat}
    (h : other ≠ call) : (c.step fate call).phase other = c.phase other := by
  unfold step
  split <;> try split
  all_goals first | rfl | exact phase_enter_of_ne h

/-- Whoever has won remains the winner. -/
theorem winner?_step {fate : Nat → Fate} {c : Contest} {call : Nat} {winner : Winner}
    (h : c.winner? = some winner) : (c.step fate call).winner? = some winner := by
  unfold step
  split <;> try split
  all_goals simp_all [enter]

end Contest

namespace Race

variable {κ : Type}

/-- The contest for an endpoint after all steps of its calls. -/
def contest (x : Race κ) (endpoint : String) (fate : Nat → Fate) : Contest :=
  (x.stepsAt endpoint).foldl (Contest.step fate)
    ⟨(x.registry.get? endpoint).map fun _ => .before, fun _ => .requested⟩

/-- Whether the candidates for an endpoint have met these fates. -/
def Meets (x : Race κ) (endpoint : String) (fate : Nat → Fate) : Prop :=
  ∀ call met, x.calls[call]? = some endpoint → (call, .made met) ∈ x.history → met = fate call

/-- Whether a client is the one that the calls for an endpoint see. -/
def Names (x : Race κ) (endpoint : String) : Winner → ClientId → Prop
  | .before, id => x.registry.get? endpoint = some id
  | .candidate call, id => (call, .committed id) ∈ x.history

/-- Whether a call has come to a phase. -/
inductive Shows (x : Race κ) (winner? : Option Winner) (endpoint : String) :
    Acquisition → CallPhase → Prop where
  /-- It has not begun. -/
  | requested : Shows x winner? endpoint (.requested endpoint) .requested
  /-- It has found no client. -/
  | missing : Shows x winner? endpoint (.missing endpoint) .missing
  /-- Its candidate has been made. -/
  | initializing {id : ClientId} {initialization : Delayed (Outcome Unit)} :
    Shows x winner? endpoint (.initializing endpoint id initialization) .initializing
  /-- Its candidate has failed. -/
  | failed {e : FederationError} : Shows x winner? endpoint (.ended (.error e)) (.ended (.error e))
  /-- It has given the client that is registered. -/
  | succeeded {id : ClientId} {winner : Winner} (hentry : x.client? endpoint = some id)
    (hwinner : winner? = some winner) :
    Shows x winner? endpoint (.ended (.ok id)) (.ended (.ok winner))

/-- Whether a contest is what the calls for an endpoint see of a race. -/
structure Mirrors (x : Race κ) (endpoint : String) (c : Contest) : Prop where
  /-- They see the client that is registered. -/
  entry : Option.Rel (x.Names endpoint) c.winner? (x.client? endpoint)
  /-- They see what every one of them has come to. -/
  calls : ∀ call a, x.calls[call]? = some endpoint → x.final.acquisitions[call]? = some a →
    x.Shows c.winner? endpoint a (c.phase call)

/-! ## What the calls for one endpoint see -/

section

variable {x : Race κ} {endpoint : String} {fate : Nat → Fate} {call : Nat}

theorem contest_next_of_call (h : x.calls[call]? = some endpoint) :
    (x.next call).contest endpoint fate = (x.contest endpoint fate).step fate call := by
  have hsteps : (x.next call).stepsAt endpoint = x.stepsAt endpoint ++ [call] := by
    change (x.schedule ++ [call]).filter (x.calls[·]? = some endpoint) = _
    rw [List.filter_append, List.filter_cons_of_pos (by simpa using h), List.filter_nil]
    rfl
  rw [contest, hsteps, List.foldl_append]
  rfl

theorem contest_next_of_ne (h : x.calls[call]? ≠ some endpoint) :
    (x.next call).contest endpoint fate = x.contest endpoint fate := by
  have hsteps : (x.next call).stepsAt endpoint = x.stepsAt endpoint := by
    change (x.schedule ++ [call]).filter (x.calls[·]? = some endpoint) = _
    rw [List.filter_append, List.filter_cons_of_neg (by simpa using h), List.filter_nil,
      List.append_nil]
    rfl
  rw [contest, hsteps]
  rfl

theorem Names.next {winner : Winner} {id : ClientId} (h : x.Names endpoint winner id) :
    (x.next call).Names endpoint winner id := by
  cases winner with
  | before => exact h
  | candidate other => exact mem_history_next h

/-- A step registers at most a candidate, and only where no client is registered. -/
theorem client?_next (x : Race κ) (call : Nat) (endpoint : String) :
    (x.next call).client? endpoint = (x.client? endpoint).or
      ((x.final.milestone? x.lifecycle call).bind (x.candidate? endpoint)) := by
  rw [(x.next call).orderly.entries, firstCommitted?_next, ← Option.or_assoc, x.orderly.entries]
  rfl

theorem client?_next_of_some {id : ClientId} (h : x.client? endpoint = some id) :
    (x.next call).client? endpoint = some id := by
  rw [client?_next, h]
  rfl

/-- What a call has come to is seen until it takes a step. -/
theorem Shows.next {winner? winner?' : Option Winner} {a : Acquisition} {phase : CallPhase}
    (h : x.Shows winner? endpoint a phase)
    (hwinner : ∀ winner, winner? = some winner → winner?' = some winner) :
    (x.next call).Shows winner?' endpoint a phase := by
  cases h with
  | requested => exact .requested
  | missing => exact .missing
  | initializing => exact .initializing
  | failed => exact .failed
  | succeeded hentry hw => exact .succeeded (client?_next_of_some hentry) (hwinner _ hw)

theorem rel_names_next {winner? : Option Winner} {id? : Option ClientId}
    (h : Option.Rel (x.Names endpoint) winner? id?) :
    Option.Rel ((x.next call).Names endpoint) winner? id? := by
  cases h with
  | none => exact .none
  | some hnames => exact .some hnames.next

theorem exists_winner {winner? : Option Winner} {id : ClientId}
    (hrel : Option.Rel (x.Names endpoint) winner? (x.client? endpoint))
    (hfound : x.client? endpoint = some id) :
    ∃ winner, winner? = some winner ∧ x.Names endpoint winner id := by
  rw [hfound] at hrel
  cases hrel with
  | some hnames => exact ⟨_, rfl, hnames⟩

theorem winner_eq_none {winner? : Option Winner}
    (hrel : Option.Rel (x.Names endpoint) winner? (x.client? endpoint))
    (hfound : x.client? endpoint = none) : winner? = none := by
  rw [hfound] at hrel
  cases hrel
  rfl

/-- A step that registers nothing is seen when its phase is. -/
theorem mirrors_of_enter {c : Contest} {a : Acquisition} {phase : CallPhase}
    (hrel : Option.Rel (x.Names endpoint) c.winner? (x.client? endpoint))
    (hsame : (x.next call).client? endpoint = x.client? endpoint)
    (hshows : (x.next call).Shows c.winner? endpoint a phase) :
    Option.Rel ((x.next call).Names endpoint) (c.enter call phase).winner?
        ((x.next call).client? endpoint) ∧
      (x.next call).Shows (c.enter call phase).winner? endpoint a
        ((c.enter call phase).phase call) := by
  rw [hsame, Contest.phase_enter_self]
  exact ⟨rel_names_next hrel, hshows⟩

/-- The call that takes a step of its race takes the same step of the contest.

**Proof sketch.** By the ways in which an acquisition goes on. The contest decides by the client
that is registered and by the fate of the candidate, and it sees both. -/
theorem mirrors_step {c : Contest} {m? : Option Milestone} {a a' : Acquisition}
    {entries : List (String × ClientId)}
    (hadvances : Advances x.final.registry endpoint a m? a' entries)
    (hstands : x.Stands endpoint call a) (hcall : x.calls[call]? = some endpoint)
    (hmilestone : x.final.milestone? x.lifecycle call = m?.map (call, ·))
    (hmeets : (x.next call).Meets endpoint fate)
    (hrel : Option.Rel (x.Names endpoint) c.winner? (x.client? endpoint))
    (hshows : x.Shows c.winner? endpoint a (c.phase call)) :
    Option.Rel ((x.next call).Names endpoint) (c.step fate call).winner?
        ((x.next call).client? endpoint) ∧
      (x.next call).Shows (c.step fate call).winner? endpoint a' ((c.step fate call).phase call)
    := by
  have hmet : ∀ met, (call, .made met) ∈ (x.next call).history → fate call = met :=
    fun met hmade => (hmeets call met hcall hmade).symm
  have hpassed : ∀ m, m? = some m → (call, m) ∈ (x.next call).history := fun m hm => by
    rw [history_next, hmilestone, hm]
    simp
  have hentry := client?_next x call endpoint
  rw [hmilestone] at hentry
  generalize hphase : c.phase call = phase at hshows
  cases hadvances with
  | @finds id hget =>
    cases hshows with
    | requested =>
      have hfound : x.client? endpoint = some id := hget
      obtain ⟨winner, hwinner, -⟩ := exists_winner hrel hfound
      have hstep : c.step fate call = c.enter call (.ended (.ok winner)) := by
        simp only [Contest.step, hphase, hwinner]
      rw [hstep]
      refine mirrors_of_enter hrel (by simpa using hentry) ?_
      exact .succeeded (client?_next_of_some hfound) hwinner
  | misses hget =>
    cases hshows with
    | requested =>
      have hwinner : c.winner? = none := winner_eq_none hrel hget
      have hstep : c.step fate call = c.enter call .missing := by
        simp only [Contest.step, hphase, hwinner]
      rw [hstep]
      exact mirrors_of_enter hrel (by simpa using hentry) .missing
  | @refused e =>
    cases hshows with
    | missing =>
      have hstep : c.step fate call = c.enter call (.ended (.error e)) := by
        simp only [Contest.step, hphase, hmet _ (hpassed _ rfl)]
      rw [hstep]
      exact mirrors_of_enter hrel (by simpa [candidate?] using hentry) .failed
  | @begins id initialization =>
    cases hshows with
    | missing =>
      have hstep : c.step fate call = c.enter call .initializing := by
        simp only [Contest.step, hphase, hmet _ (hpassed _ rfl)]
      rw [hstep]
      exact mirrors_of_enter hrel (by simpa [candidate?] using hentry) .initializing
  | @fails id initialization e hvalue =>
    cases hshows with
    | initializing =>
      cases hstands with
      | initializing hmade =>
        have hstep : c.step fate call = c.enter call (.ended (.error e)) := by
          simp only [Contest.step, hphase, hmet _ (mem_history_next hmade), hvalue]
        rw [hstep]
        exact mirrors_of_enter hrel (by simpa using hentry) .failed
  | @loses id other initialization hvalue hget =>
    cases hshows with
    | initializing =>
      cases hstands with
      | initializing hmade =>
        have hfound : x.client? endpoint = some other := hget
        obtain ⟨winner, hwinner, -⟩ := exists_winner hrel hfound
        have hstep : c.step fate call = c.enter call (.ended (.ok winner)) := by
          simp only [Contest.step, hphase, hmet _ (mem_history_next hmade), hvalue, hwinner,
            Option.getD_some]
          rw [Contest.enter, hwinner]
        rw [hstep]
        refine mirrors_of_enter hrel (by rw [hentry, hfound]; rfl) ?_
        exact .succeeded (client?_next_of_some hfound) hwinner
  | @wins id initialization hvalue hget =>
    cases hshows with
    | initializing =>
      cases hstands with
      | initializing hmade =>
        have hwinner : c.winner? = none := winner_eq_none hrel hget
        have hstep : c.step fate call = { c.enter call (.ended (.ok (.candidate call))) with
            winner? := some (.candidate call) } := by
          simp only [Contest.step, hphase, hmet _ (mem_history_next hmade), hvalue, hwinner,
            Option.getD_none]
        have hregistered : (x.next call).client? endpoint = some id := by
          have hfound : x.client? endpoint = none := hget
          rw [hentry, hfound]
          simp [candidate?, hcall]
        rw [hstep, hregistered, Contest.phase_enter_self]
        exact ⟨.some (hpassed _ rfl), .succeeded hregistered rfl⟩
  | rests =>
    have hstep : c.step fate call = c := by
      cases hshows <;> simp only [Contest.step, hphase]
    have hsame : (x.next call).client? endpoint = x.client? endpoint := by simpa using hentry
    rw [hstep, hsame, hphase]
    exact ⟨rel_names_next hrel, hshows.next fun _ hwinner => hwinner⟩

theorem client?_next_of_ne (h : x.calls[call]? ≠ some endpoint) :
    (x.next call).client? endpoint = x.client? endpoint := by
  rw [client?_next, SharedRegistry.milestone?]
  cases x.final.acquisitions[call]?.bind (·.milestone? x.lifecycle x.final.registry) with
  | none => exact Option.or_none
  | some m =>
    cases m with
    | made fate => exact Option.or_none
    | committed id =>
      have hnone : x.candidate? endpoint (call, .committed id) = none := if_neg h
      rw [Option.map_some, Option.bind_some, hnone, Option.or_none]

theorem acquisitions_next_of_ne {other : Nat} (h : other ≠ call) :
    (x.next call).final.acquisitions[other]? = x.final.acquisitions[other]? := by
  cases hcall : x.final.acquisitions[call]? with
  | none => rw [(next_of_none hcall).1]
  | some a =>
    rw [final_next]
    simp only [SharedRegistry.after, hcall]
    exact List.getElem?_set_ne (Ne.symm h)

/-- A step of a race is a step of the contest when the call is for the endpoint, and is not seen
when it is for another one. -/
theorem mirrors_next (hmeets : (x.next call).Meets endpoint fate)
    (hx : x.Mirrors endpoint (x.contest endpoint fate)) :
    (x.next call).Mirrors endpoint ((x.next call).contest endpoint fate) := by
  by_cases hcall : x.calls[call]? = some endpoint
  · obtain ⟨a, m?, a', ha, hstands, hadvances, hacquisitions, hmilestone⟩ :=
      next_of_call x.orderly hcall
    obtain ⟨hentry, hshows⟩ := mirrors_step hadvances hstands hcall hmilestone hmeets hx.entry
      (hx.calls call a hcall ha)
    rw [contest_next_of_call hcall]
    refine ⟨hentry, fun other b hother hb => ?_⟩
    by_cases hsame : other = call
    · subst hsame
      rw [hacquisitions, List.getElem?_set_self (List.getElem?_eq_some_iff.1 ha).1] at hb
      exact Option.some.inj hb ▸ hshows
    · rw [acquisitions_next_of_ne hsame] at hb
      rw [Contest.phase_step_of_ne _ _ hsame]
      exact (hx.calls other b hother hb).next fun _ hwinner => Contest.winner?_step hwinner
  · rw [contest_next_of_ne hcall]
    refine ⟨?_, fun other b hother hb => ?_⟩
    · rw [client?_next_of_ne hcall]
      exact rel_names_next hx.entry
    · have hne : other ≠ call := fun hsame => hcall (hsame ▸ hother)
      rw [acquisitions_next_of_ne hne] at hb
      exact (hx.calls other b hother hb).next fun _ hwinner => hwinner

/-- What happens at an endpoint is a contest of the calls for it. -/
theorem mirrors_contest (x : Race κ) {endpoint : String} {fate : Nat → Fate}
    (hmeets : x.Meets endpoint fate) : x.Mirrors endpoint (x.contest endpoint fate) := by
  induction x using Race.induction with
  | hstart l r calls =>
    refine ⟨?_, fun call a hcall ha => ?_⟩
    · change Option.Rel _ ((r.get? endpoint).map fun _ => Winner.before) (r.get? endpoint)
      cases hget : r.get? endpoint with
      | none => exact .none
      | some id => exact .some hget
    · rw [final_start, List.getElem?_map] at ha
      obtain rfl : a = .requested endpoint := by
        obtain ⟨other, hother, rfl⟩ := Option.map_eq_some_iff.1 ha
        rw [Option.some.inj (hother.symm.trans hcall)]
      exact .requested
  | hnext x call ih =>
    exact mirrors_next hmeets (ih fun other met hother hmade =>
      hmeets other met hother (mem_history_next hmade))

end

end Race

end ServiceClause
