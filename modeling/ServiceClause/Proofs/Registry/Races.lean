import Mathlib.Data.List.Induction
import ServiceClause.Proofs.Registry.Conservation

/-!
# Racing for a client

Several callers ask a registry for clients at once, and nothing else happens to it. Each call looks
the registry up, makes a candidate and has it initialized, and then registers it unless another one
is there already. The steps of the calls come in any order, and any candidate may fail. Still an
endpoint has the client that it had before, or else the first candidate that was to be registered.

## Main definitions

* `ServiceClause.Race` — calls to a registry and the order of their steps.
* `ServiceClause.Race.history` — the candidates that were made and that were to be registered.
* `ServiceClause.Race.Orderly` — the invariant.

## Main statements

* `ServiceClause.Race.advances_step` — the ways in which an acquisition goes on.
* `ServiceClause.Race.orderly` — the invariant holds after any steps.
-/

set_option autoImplicit false

namespace ServiceClause

/-- What becomes of the candidate of a call: it cannot be made, or its initialization has an
outcome. -/
abbrev Fate := Outcome (Outcome Unit)

/-- What a call passes on its way. -/
inductive Milestone where
  /-- It makes its candidate, or cannot make it. -/
  | made (fate : Fate)
  /-- Its candidate has been initialized and is to be registered. -/
  | committed (id : ClientId)

namespace Acquisition

variable {κ : Type}

/-- The result with which an acquisition has ended. -/
def result? : Acquisition → Option (Outcome ClientId)
  | .ended result => some result
  | _ => none

/-- How many steps an acquisition takes at most before it has ended. -/
def stepsLeft : Acquisition → Nat
  | .requested _ => 3
  | .missing _ => 2
  | .initializing _ _ _ => 1
  | .ended _ => 0

/-- The milestone that the next step of an acquisition passes. -/
def milestone? (l : Lifecycle κ) (r : Registry κ) : Acquisition → Option Milestone
  | .missing endpoint => some (.made ((r.begin l endpoint).1.map fun begun => begun.2.value))
  | .initializing _ id initialization =>
    match initialization.value with
    | .ok () => some (.committed id)
    | .error _ => none
  | _ => none

end Acquisition

namespace SharedRegistry

variable {κ : Type}

/-- The milestone that a call passes with its next step. -/
def milestone? (l : Lifecycle κ) (s : SharedRegistry κ) (call : Nat) : Option (Nat × Milestone) :=
  (s.acquisitions[call]?.bind (·.milestone? l s.registry)).map (call, ·)

/-- The milestones that calls pass when they take steps in this order. -/
def history (l : Lifecycle κ) (s : SharedRegistry κ) : List Nat → List (Nat × Milestone)
  | [] => []
  | call :: rest => (s.milestone? l call).toList ++ (s.after l (.proceed call)).history l rest

theorem history_concat (l : Lifecycle κ) (s : SharedRegistry κ) (schedule : List Nat)
    (call : Nat) :
    s.history l (schedule ++ [call]) =
      s.history l schedule ++ ((s.run l (schedule.map .proceed)).milestone? l call).toList := by
  induction schedule generalizing s with
  | nil => simp [history, run]
  | cons first rest ih =>
    rw [List.cons_append, history, history, ih, List.append_assoc]
    rfl

end SharedRegistry

/-- Calls to a registry. Nothing else happens to it. -/
structure Race (κ : Type) where
  /-- How clients are initialized and shut down. -/
  lifecycle : Lifecycle κ
  /-- The registry before the calls. -/
  registry : Registry κ
  /-- The endpoints that the calls are for. -/
  calls : List String
  /-- The calls in the order in which they take steps. -/
  schedule : List Nat

namespace Race

variable {κ : Type}

/-- The registry and its callers before any step. -/
def start (x : Race κ) : SharedRegistry κ := ⟨x.registry, x.calls.map .requested, [], []⟩

/-- The registry and its callers after all steps. -/
def final (x : Race κ) : SharedRegistry κ := x.start.run x.lifecycle (x.schedule.map .proceed)

/-- The milestones that the calls have passed. -/
def history (x : Race κ) : List (Nat × Milestone) := x.start.history x.lifecycle x.schedule

/-- The race with one more step. -/
def next (x : Race κ) (call : Nat) : Race κ := { x with schedule := x.schedule ++ [call] }

/-- The client that is registered for an endpoint in the end. -/
def client? (x : Race κ) (endpoint : String) : Option ClientId := x.final.registry.get? endpoint

/-- The result of a call, if it has ended. -/
def result? (x : Race κ) (call : Nat) : Option (Outcome ClientId) :=
  x.final.acquisitions[call]?.bind Acquisition.result?

/-- The candidate that is to be registered for an endpoint with a milestone. -/
def candidate? (x : Race κ) (endpoint : String) : Nat × Milestone → Option ClientId
  | (call, .committed id) => if x.calls[call]? = some endpoint then some id else none
  | (_, .made _) => none

/-- The first candidate that was to be registered for an endpoint. -/
def firstCommitted? (x : Race κ) (endpoint : String) : Option ClientId :=
  x.history.findSome? (x.candidate? endpoint)

/-- The steps of the calls for an endpoint, in their order. -/
def stepsAt (x : Race κ) (endpoint : String) : List Nat :=
  x.schedule.filter (x.calls[·]? = some endpoint)

/-! ## How an acquisition goes on -/

theorem lookup_filter_of_ne {entries : List (String × ClientId)} {endpoint other : String}
    (h : other ≠ endpoint) :
    (entries.filter (·.1 ≠ endpoint)).lookup other = entries.lookup other := by
  induction entries with
  | nil => rfl
  | cons entry entries ih =>
    obtain ⟨key, id⟩ := entry
    by_cases hkey : key = endpoint
    · subst hkey
      rw [List.filter_cons_of_neg (by simp), ih, List.lookup_cons, beq_eq_false_iff_ne.2 h]
    · rw [List.filter_cons_of_pos (by simpa using hkey), List.lookup_cons, List.lookup_cons, ih]

theorem get?_setEntry (r : Registry κ) (endpoint other : String) (id : ClientId) :
    (r.setEntry endpoint id).get? other = if other = endpoint then some id else r.get? other := by
  unfold Registry.get? Registry.setEntry
  by_cases h : other = endpoint
  · simp [h]
  · rw [List.lookup_cons, beq_eq_false_iff_ne.2 h, if_neg h]
    exact lookup_filter_of_ne h

/-- The ways in which an acquisition for an endpoint goes on, with the milestone that it passes and
the entries of the registry after the step. -/
inductive Advances (r : Registry κ) (endpoint : String) :
    Acquisition → Option Milestone → Acquisition → List (String × ClientId) → Prop where
  /-- A client is registered. -/
  | finds {id : ClientId} (hget : r.get? endpoint = some id) :
    Advances r endpoint (.requested endpoint) none (.ended (.ok id)) r.entries
  /-- No client is registered. -/
  | misses (hget : r.get? endpoint = none) :
    Advances r endpoint (.requested endpoint) none (.missing endpoint) r.entries
  /-- The candidate cannot be made. -/
  | refused {e : FederationError} :
    Advances r endpoint (.missing endpoint) (some (.made (.error e))) (.ended (.error e)) r.entries
  /-- The candidate is made, and its initialization begins. -/
  | begins {id : ClientId} {initialization : Delayed (Outcome Unit)} :
    Advances r endpoint (.missing endpoint) (some (.made (.ok initialization.value)))
      (.initializing endpoint id initialization) r.entries
  /-- The initialization fails. -/
  | fails {id : ClientId} {initialization : Delayed (Outcome Unit)} {e : FederationError}
    (hvalue : initialization.value = .error e) :
    Advances r endpoint (.initializing endpoint id initialization) none (.ended (.error e))
      r.entries
  /-- Another client has been registered. -/
  | loses {id other : ClientId} {initialization : Delayed (Outcome Unit)}
    (hvalue : initialization.value = .ok ()) (hget : r.get? endpoint = some other) :
    Advances r endpoint (.initializing endpoint id initialization) (some (.committed id))
      (.ended (.ok other)) r.entries
  /-- The candidate is registered. -/
  | wins {id : ClientId} {initialization : Delayed (Outcome Unit)}
    (hvalue : initialization.value = .ok ()) (hget : r.get? endpoint = none) :
    Advances r endpoint (.initializing endpoint id initialization) (some (.committed id))
      (.ended (.ok id)) (r.setEntry endpoint id).entries
  /-- The acquisition has ended. -/
  | rests {result : Outcome ClientId} :
    Advances r endpoint (.ended result) none (.ended result) r.entries

/-- What a call for an endpoint has come to. -/
inductive Stands (x : Race κ) (endpoint : String) (call : Nat) : Acquisition → Prop where
  /-- It has not begun. -/
  | requested : Stands x endpoint call (.requested endpoint)
  /-- It has found no client. -/
  | missing : Stands x endpoint call (.missing endpoint)
  /-- Its candidate has been made. -/
  | initializing {id : ClientId} {initialization : Delayed (Outcome Unit)}
    (hmade : (call, .made (.ok initialization.value)) ∈ x.history) :
    Stands x endpoint call (.initializing endpoint id initialization)
  /-- Its candidate has failed. -/
  | failed {fate : Fate} {e : FederationError} (hmade : (call, .made fate) ∈ x.history)
    (hfate : fate = .error e ∨ fate = .ok (.error e)) :
    Stands x endpoint call (.ended (.error e))
  /-- It has given the client that is registered. -/
  | succeeded {id : ClientId} (hentry : x.client? endpoint = some id) :
    Stands x endpoint call (.ended (.ok id))

/-- Every step of an acquisition is one of these. -/
theorem advances_step {x : Race κ} {endpoint : String} {call : Nat} {a : Acquisition}
    (ha : x.Stands endpoint call a) (l : Lifecycle κ) (r : Registry κ) :
    Advances r endpoint a (a.milestone? l r) (r.step l a).1 (r.step l a).2.entries := by
  cases ha with
  | requested =>
    rw [Registry.step]
    cases hget : r.get? endpoint with
    | some id => exact .finds hget
    | none => exact .misses hget
  | missing =>
    rw [Registry.step, Acquisition.milestone?, Registry.begin]
    cases hcreate : r.factory.create endpoint with
    | mk outcome factory =>
      cases outcome with
      | error e => exact .refused
      | ok client => exact .begins
  | @initializing id initialization =>
    rw [Registry.step, Acquisition.milestone?]
    cases hvalue : initialization.value with
    | error e => exact .fails hvalue
    | ok _ =>
      rw [Registry.commit]
      cases hget : r.get? endpoint with
      | some other => exact .loses hvalue hget
      | none => exact .wins hvalue hget
  | failed => exact .rests
  | succeeded => exact .rests

/-! ## Steps of a race -/

theorem final_next (x : Race κ) (call : Nat) :
    (x.next call).final = x.final.after x.lifecycle (.proceed call) := by
  simp [final, next, start, SharedRegistry.run]

theorem history_next (x : Race κ) (call : Nat) :
    (x.next call).history = x.history ++ (x.final.milestone? x.lifecycle call).toList :=
  x.start.history_concat x.lifecycle x.schedule call

/-- What a race is like at any moment. -/
structure Orderly (x : Race κ) : Prop where
  /-- Nobody else asks for a client. -/
  length : x.final.acquisitions.length = x.calls.length
  /-- Every call is on its way. -/
  stands : ∀ call endpoint, x.calls[call]? = some endpoint →
    ∃ a, x.final.acquisitions[call]? = some a ∧ x.Stands endpoint call a
  /-- An endpoint has the client that it had before, or else the first candidate. -/
  entries : ∀ endpoint, x.client? endpoint =
    (x.registry.get? endpoint).or (x.firstCommitted? endpoint)
  /-- A call ends after three steps of its own. -/
  progress : ∀ (call : Nat) (a : Acquisition), x.final.acquisitions[call]? = some a →
    a.stepsLeft ≤ 3 - x.schedule.count call

/-- A step that nobody takes changes nothing. -/
theorem next_of_none {x : Race κ} {call : Nat} (h : x.final.acquisitions[call]? = none) :
    (x.next call).final = x.final ∧ x.final.milestone? x.lifecycle call = none := by
  rw [final_next]
  simp [SharedRegistry.after, SharedRegistry.milestone?, h]

theorem mem_history_next {x : Race κ} {call : Nat} {m : Nat × Milestone} (h : m ∈ x.history) :
    m ∈ (x.next call).history := by
  rw [history_next]
  exact List.mem_append_left _ h

/-- What a step of a call does: it goes on in one of the ways above, and the others stay where they
are. -/
theorem next_of_call {x : Race κ} (hx : x.Orderly) {call : Nat} {endpoint : String}
    (hcall : x.calls[call]? = some endpoint) :
    ∃ a m? a', x.final.acquisitions[call]? = some a ∧ x.Stands endpoint call a ∧
      Advances x.final.registry endpoint a m? a' (x.next call).final.registry.entries ∧
      (x.next call).final.acquisitions = x.final.acquisitions.set call a' ∧
      x.final.milestone? x.lifecycle call = m?.map (call, ·) := by
  obtain ⟨a, ha, hstands⟩ := hx.stands call endpoint hcall
  refine ⟨a, a.milestone? x.lifecycle x.final.registry, (x.final.registry.step x.lifecycle a).1,
    ha, hstands, ?_, ?_, ?_⟩
  · rw [final_next]
    simp only [SharedRegistry.after, ha]
    exact advances_step hstands x.lifecycle x.final.registry
  · rw [final_next]
    simp only [SharedRegistry.after, ha]
  · rw [SharedRegistry.milestone?, ha]
    rfl

/-- A step registers at most the candidate that it commits, and only where no client is
registered. -/
theorem lookup_of_advances {x : Race κ} {r : Registry κ} {endpoint : String}
    {a a' : Acquisition} {m? : Option Milestone} {entries : List (String × ClientId)} {call : Nat}
    (h : Advances r endpoint a m? a' entries) (hcall : x.calls[call]? = some endpoint)
    (other : String) :
    entries.lookup other =
      (r.get? other).or ((m?.map (call, ·)).bind (x.candidate? other)) := by
  cases h with
  | finds hget => simp [Registry.get?]
  | misses hget => simp [Registry.get?]
  | refused => simp [Registry.get?, candidate?]
  | begins => simp [Registry.get?, candidate?]
  | fails hvalue => simp [Registry.get?]
  | @loses id present initialization hvalue hget =>
    by_cases hother : other = endpoint
    · subst hother
      rw [hget]
      exact hget
    · have hne : ¬ some endpoint = some other := fun heq => hother (Option.some.inj heq).symm
      simp [candidate?, hcall, hne, Registry.get?]
  | @wins id initialization hvalue hget =>
    have hset := get?_setEntry r endpoint other id
    rw [Registry.get?] at hset
    rw [hset]
    by_cases hother : other = endpoint
    · subst hother
      simp [candidate?, hcall, hget]
    · have hne : ¬ some endpoint = some other := fun heq => hother (Option.some.inj heq).symm
      simp [candidate?, hcall, hne, if_neg hother]
  | rests => simp [Registry.get?]

/-- What a call has come to remains so while clients stay registered. -/
theorem Stands.mono {x y : Race κ} {endpoint : String} {call : Nat} {a : Acquisition}
    (h : x.Stands endpoint call a) (hhistory : ∀ m ∈ x.history, m ∈ y.history)
    (hentry : ∀ id, x.client? endpoint = some id → y.client? endpoint = some id) :
    y.Stands endpoint call a := by
  cases h with
  | requested => exact .requested
  | missing => exact .missing
  | initializing hmade => exact .initializing (hhistory _ hmade)
  | failed hmade hfate => exact .failed (hhistory _ hmade) hfate
  | succeeded hget => exact .succeeded (hentry _ hget)

/-- The call that takes a step stands where the step leads. -/
theorem stands_of_advances {x y : Race κ} {endpoint : String} {call : Nat} {a a' : Acquisition}
    {m? : Option Milestone} {entries : List (String × ClientId)}
    (h : Advances x.final.registry endpoint a m? a' entries)
    (hstands : x.Stands endpoint call a) (hentries : y.final.registry.entries = entries)
    (hhistory : ∀ m ∈ x.history, m ∈ y.history) (hm : ∀ m, m? = some m → (call, m) ∈ y.history)
    (hentry : ∀ id, x.client? endpoint = some id → y.client? endpoint = some id) :
    y.Stands endpoint call a' := by
  cases h with
  | finds hget => exact .succeeded (hentry _ hget)
  | misses hget => exact .missing
  | refused => exact .failed (hm _ rfl) (.inl rfl)
  | begins => exact .initializing (hm _ rfl)
  | fails hvalue =>
    cases hstands with
    | initializing hmade => exact .failed (hhistory _ hmade) (.inr (by rw [hvalue]))
  | loses hvalue hget => exact .succeeded (hentry _ hget)
  | @wins id initialization hvalue hget =>
    refine .succeeded ?_
    have hset := get?_setEntry x.final.registry endpoint endpoint id
    rw [if_pos rfl] at hset
    rw [client?, Registry.get?, hentries]
    exact hset
  | rests => exact hstands.mono hhistory hentry

theorem firstCommitted?_next (x : Race κ) (call : Nat) (endpoint : String) :
    (x.next call).firstCommitted? endpoint = (x.firstCommitted? endpoint).or
      ((x.final.milestone? x.lifecycle call).bind (x.candidate? endpoint)) := by
  rw [firstCommitted?, history_next, List.findSome?_append]
  congr 1
  cases x.final.milestone? x.lifecycle call with
  | none => rfl
  | some m =>
    simp only [Option.toList_some, List.findSome?_singleton, Option.bind_some]
    rfl

theorem count_next (x : Race κ) (call other : Nat) :
    (x.next call).schedule.count other =
      x.schedule.count other + if call = other then 1 else 0 := by
  simp [next, List.count_append, List.count_singleton]

/-- Every step of an acquisition brings it nearer to its end. -/
theorem stepsLeft_of_advances {r : Registry κ} {endpoint : String} {a a' : Acquisition}
    {m? : Option Milestone} {entries : List (String × ClientId)}
    (h : Advances r endpoint a m? a' entries) : a'.stepsLeft ≤ a.stepsLeft - 1 := by
  cases h <;> simp [Acquisition.stepsLeft]

/-- Every step keeps a race orderly.

**Proof sketch.** A step that somebody takes is one of the ways in which an acquisition goes on
(`next_of_call`). It registers at most the candidate that it commits (`lookup_of_advances`), so no
entry is changed, and the other calls stand where they did. -/
theorem orderly_next {x : Race κ} (hx : x.Orderly) (call : Nat) : (x.next call).Orderly := by
  cases hcall : x.calls[call]? with
  | none =>
    have hnone : x.final.acquisitions[call]? = none := by
      rw [List.getElem?_eq_none_iff] at hcall ⊢
      rw [hx.length]
      exact hcall
    obtain ⟨hfinal, hmilestone⟩ := next_of_none hnone
    have hentry : ∀ endpoint, (x.next call).client? endpoint = x.client? endpoint := by
      intro endpoint
      rw [client?, hfinal, client?]
    refine ⟨by rw [hfinal]; exact hx.length, fun other endpoint hother => ?_, fun endpoint => ?_,
      fun other a ha => ?_⟩
    · obtain ⟨a, ha, hstands⟩ := hx.stands other endpoint hother
      refine ⟨a, by rw [hfinal]; exact ha, hstands.mono (fun m hm => mem_history_next hm) ?_⟩
      intro id hid
      rw [hentry, hid]
    · rw [hentry, firstCommitted?_next, hmilestone]
      exact (hx.entries endpoint).trans (congrArg _ Option.or_none.symm)
    · rw [hfinal] at ha
      have hne : call ≠ other := by
        rintro rfl
        rw [hnone] at ha
        simp at ha
      rw [count_next, if_neg hne]
      exact hx.progress other a ha
  | some endpoint =>
    obtain ⟨a, m?, a', ha, hstands, hadvances, hacquisitions, hmilestone⟩ := next_of_call hx hcall
    have hentry : ∀ other, (x.next call).client? other =
        (x.client? other).or ((m?.map (call, ·)).bind (x.candidate? other)) :=
      lookup_of_advances hadvances hcall
    have hkept : ∀ other id, x.client? other = some id →
        (x.next call).client? other = some id := by
      intro other id hid
      rw [hentry, hid]
      rfl
    have hmore : ∀ m ∈ x.history, m ∈ (x.next call).history := fun m hm => mem_history_next hm
    refine ⟨by rw [hacquisitions, List.length_set]; exact hx.length, fun other at' hother => ?_,
      fun other => ?_, fun other b hb => ?_⟩
    · by_cases hsame : other = call
      · subst hsame
        obtain rfl := Option.some.inj (hcall.symm.trans hother)
        have hlt : other < x.final.acquisitions.length := (List.getElem?_eq_some_iff.1 ha).1
        refine ⟨a', by rw [hacquisitions, List.getElem?_set_self hlt], ?_⟩
        refine stands_of_advances hadvances hstands rfl hmore (fun m hm => ?_) (hkept endpoint)
        rw [history_next, hmilestone, hm]
        simp
      · obtain ⟨b, hb, hstands⟩ := hx.stands other at' hother
        refine ⟨b, ?_, hstands.mono hmore (hkept at')⟩
        rw [hacquisitions, List.getElem?_set_ne (Ne.symm hsame), hb]
    · rw [hentry, firstCommitted?_next, hmilestone, hx.entries other, Option.or_assoc]
      rfl
    · rw [hacquisitions] at hb
      rw [count_next]
      by_cases hsame : call = other
      · subst hsame
        have hlt : call < x.final.acquisitions.length := (List.getElem?_eq_some_iff.1 ha).1
        rw [List.getElem?_set_self hlt] at hb
        obtain rfl := Option.some.inj hb
        have hbefore := hx.progress call a ha
        have hstep := stepsLeft_of_advances hadvances
        rw [if_pos rfl]
        omega
      · rw [List.getElem?_set_ne hsame] at hb
        rw [if_neg hsame]
        exact hx.progress other b hb

/-- What holds of a race before any step and is kept by every step holds of every race. -/
theorem induction {motive : Race κ → Prop}
    (hstart : ∀ l r calls, motive ⟨l, r, calls, []⟩)
    (hnext : ∀ x call, motive x → motive (x.next call)) (x : Race κ) : motive x := by
  obtain ⟨l, r, calls, schedule⟩ := x
  induction schedule using List.reverseRecOn with
  | nil => exact hstart l r calls
  | append_singleton schedule call ih => exact hnext ⟨l, r, calls, schedule⟩ call ih

theorem final_start (l : Lifecycle κ) (r : Registry κ) (calls : List String) :
    (⟨l, r, calls, []⟩ : Race κ).final = ⟨r, calls.map .requested, [], []⟩ := rfl

theorem orderly_start (l : Lifecycle κ) (r : Registry κ) (calls : List String) :
    (⟨l, r, calls, []⟩ : Race κ).Orderly := by
  refine ⟨?_, fun call endpoint hcall => ?_, fun endpoint => ?_, fun call a ha => ?_⟩
  · rw [final_start]
    exact List.length_map _
  · refine ⟨.requested endpoint, ?_, .requested⟩
    rw [final_start, List.getElem?_map]
    rw [hcall]
    rfl
  · exact Option.or_none.symm
  · rw [final_start, List.getElem?_map] at ha
    obtain ⟨endpoint, _, rfl⟩ := Option.map_eq_some_iff.1 ha
    exact Nat.le_refl 3

/-- A race is orderly at any moment. -/
theorem orderly (x : Race κ) : x.Orderly :=
  x.induction orderly_start fun _ call hx => orderly_next hx call

end Race

end ServiceClause
