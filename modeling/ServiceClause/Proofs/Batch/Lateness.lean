import ServiceClause.Proofs.Batch.Sent
import ServiceClause.Proofs.Batch.Transparency
import ServiceClause.Remote.Script

/-!
# Answers that come too late

Only the call for all rows of a batch has a budget. If its answer takes longer, the caller gives it
up and goes on as if the call had failed; the answers to all other calls are awaited, however long
they take. So delays change nothing but the time that passes: an evaluation makes the same calls
and comes to the same outcome with a service that answers at once, and fails at once where it would
have been too late.

## Main definitions

* `ServiceClause.Wait` — a call, the delay of its answer and how long the answer is awaited.
* `ServiceClause.Service.timing` — a service that remembers how long its answers are awaited.
* `ServiceClause.Service.prompt` — a service that answers at once or fails at once.
* `ServiceClause.Evaluation.waits` — the waits of a run.
* `ServiceClause.AwaitedInFull` — how long the answers to a batch are awaited.

## Main statements

* `ServiceClause.Service.agreeOn_prompt` — where delays are not noticed.
* `ServiceClause.BatchRun.budget_eq` — which call has a budget.
* `ServiceClause.evaluateBatch_of_late` — a late answer is a failure.
-/

set_option autoImplicit false

namespace ServiceClause

/-! ## Waiting -/

/-- A call, the time until its answer arrives, and the time for which the answer is awaited. -/
structure Wait where
  /-- The call. -/
  call : Call
  /-- The time until the answer arrives. -/
  delay : Duration
  /-- The time for which it is awaited. -/
  waited : Duration
deriving DecidableEq, Repr

section

variable {α σ : Type}

/-- The wait for the answer to a call. -/
def Delayed.wait (a : Delayed (Outcome α)) (call : Call) : Wait :=
  ⟨call, a.delay, (a.within call.budget?).delay⟩

/-- An answer is awaited until it arrives or the budget of the call is used up. -/
theorem Delayed.waited_wait (a : Delayed (Outcome α)) (call : Call) :
    (a.wait call).waited = match call.budget? with
      | none => a.delay
      | some budget => min a.delay budget := by
  unfold Delayed.wait Delayed.within
  cases call.budget? with
  | none => rfl
  | some budget =>
    show Delayed.delay (if budget < a.delay then _ else _) =
      if budget < a.delay then budget else a.delay
    split <;> rfl

/-- The service that also remembers how long its answers are awaited. -/
def Service.timing (service : Service σ) : Service (σ × List Wait) where
  select call s :=
    ((service.select call s.1).1, ((service.select call s.1).2,
      s.2 ++ [(service.select call s.1).1.wait call]))
  ask call s :=
    ((service.ask call s.1).1, ((service.ask call s.1).2,
      s.2 ++ [(service.ask call s.1).1.wait call]))

/-- How long the answers are awaited that a service in the state `w` gives to an evaluation. -/
def Evaluation.waits (service : Service σ) (e : Evaluation α) (w : σ) : List Wait :=
  (e.runToEnd service.timing (w, [])).2.2

/-- The calls whose answers are awaited are those that the service records. -/
theorem Evaluation.map_call_waits (service : Service σ) (e : Evaluation α) (w : σ) :
    (e.waits service w).map Wait.call = (e.runToEnd service.recording (w, [])).2.2 := by
  have hrefines : service.timing.Refines service.recording (fun s => (s.1, s.2.map Wait.call)) :=
    ⟨fun call s => ⟨rfl, by simp [Service.timing, Service.recording, Delayed.wait]⟩,
      fun call s => ⟨rfl, by simp [Service.timing, Service.recording, Delayed.wait]⟩⟩
  have hrun := e.runToEnd_of_refines hrefines (w, [])
  simp only [List.map_nil] at hrun
  rw [hrun]
  rfl

/-- What holds of the wait for every answer holds of all waits. -/
theorem Evaluation.forall_waits (service : Service σ) {motive : Wait → Prop}
    (hselect : ∀ call w, motive ((service.select call w).1.wait call))
    (hask : ∀ call w, motive ((service.ask call w).1.wait call)) (e : Evaluation α) (w : σ) :
    ∀ x ∈ e.waits service w, motive x := by
  refine Evaluation.run_keeps service.timing
    (motive := fun s : σ × List Wait => ∀ x ∈ s.2, motive x) (fun call s hs x hx => ?_)
    (fun call s hs x hx => ?_) (fun _ => false) e (fun x hx => by cases hx)
  · rcases List.mem_append.1 hx with hx | hx
    · exact hs x hx
    · exact List.mem_singleton.1 hx ▸ hselect call s.1
  · rcases List.mem_append.1 hx with hx | hx
    · exact hs x hx
    · exact List.mem_singleton.1 hx ▸ hask call s.1

/-! ## Services without delays -/

/-- The answer to a call without its delay. If the call has the given budget and the answer would
be too late for it, it is replaced by that failure. -/
def Delayed.prompt (a : Delayed (Outcome α)) (budget : Duration) (call : Call) :
    Delayed (Outcome α) :=
  if call.budget? = some budget ∧ budget < a.delay then .now (.error (.timeout budget))
  else .now a.value

/-- The service without delays. It fails at once where it would be too late for a call with the
given budget. -/
def Service.prompt (service : Service σ) (budget : Duration) : Service σ where
  select call w := ((service.select call w).1.prompt budget call, (service.select call w).2)
  ask call w := ((service.ask call w).1.prompt budget call, (service.ask call w).2)

/-- A prompt answer has no delay. -/
theorem Delayed.delay_prompt (a : Delayed (Outcome α)) (budget : Duration) (call : Call) :
    (a.prompt budget call).delay = .zero := by
  unfold Delayed.prompt
  split <;> rfl

/-- A caller gets the same from a prompt answer, as far as the budget of the call allows. -/
theorem Delayed.value_within_prompt (a : Delayed (Outcome α)) {budget : Duration} {call : Call}
    (h : call.budget? = none ∨ call.budget? = some budget) :
    ((a.prompt budget call).within call.budget?).value = (a.within call.budget?).value := by
  rw [within_of_zero (a.delay_prompt budget call), Delayed.prompt]
  rcases h with h | h
  · rw [h, if_neg (fun hlate => by cases hlate.1)]
    rfl
  · by_cases hlate : budget < a.delay
    · rw [if_pos ⟨h, hlate⟩, h, Delayed.within, if_pos hlate]
      rfl
    · rw [if_neg (fun hboth => hlate hboth.2), h, Delayed.within, if_neg hlate]
      rfl

/-- Nobody waits for a prompt answer. -/
theorem Delayed.waited_prompt (a : Delayed (Outcome α)) (budget : Duration) (call : Call) :
    ((a.prompt budget call).wait call).waited = .zero := by
  rw [Delayed.wait, within_of_zero (a.delay_prompt budget call), a.delay_prompt budget call]

/-- Delays are not noticed by calls that have the given budget or none. -/
theorem Service.agreeOn_prompt (service : Service σ) {budget : Duration} {call : Call}
    (h : call.budget? = none ∨ call.budget? = some budget) :
    service.AgreeOn (service.prompt budget) call where
  select w := ⟨((service.select call w).1.value_within_prompt h).symm, rfl⟩
  ask w := ⟨((service.ask call w).1.value_within_prompt h).symm, rfl⟩

end

/-! ## The calls of a batch -/

section

variable {flag : Bool → Prop} {config : Config} {d : Descriptor} {batch : List Row}
  {log : List Exchange} {outcome : Outcome RowSequence}

/-- Calls for single rows have no budget. -/
theorem budget_of_calls {query : String} {rows : List Row}
    (h : log.map Exchange.call = rows.filterMap (rowCall? d query)) :
    ∀ x ∈ log, x.call.budget? = none := by
  intro x hx
  have hcall : x.call ∈ rows.filterMap (rowCall? d query) := h ▸ List.mem_map_of_mem hx
  obtain ⟨row, -, hrow⟩ := List.mem_filterMap.1 hcall
  obtain ⟨text, -, hcall⟩ := Option.map_eq_some_iff.1 hrow
  rw [← hcall]

/-- The budget of call number `i` of a batch: the first call of several rows is for all of them. -/
def callBudget? (config : Config) (batch : List Row) (i : Nat) : Option Duration :=
  if i = 0 ∧ 2 ≤ batch.length then some config.batchTimeout else none

theorem budget_of_single {row : Row} {query : String}
    (h : SelectRun query row d.base? d.declared log outcome) {i : Nat} {x : Exchange}
    (hx : log[i]? = some x) : x.call.budget? = callBudget? config [row] i := by
  rw [budget_of_calls (h.calls.trans toList_rowCall?) x (List.mem_of_getElem? hx)]
  exact (if_neg fun h => absurd h.2 (by simp)).symm

theorem budget_of_together {first second : Row} {rest : List Row} {text : String}
    {answer : Outcome Solutions} (query : String) (rows : List Row)
    (h : log.map Exchange.call = rows.filterMap (rowCall? d query)) {i : Nat} {x : Exchange}
    (hx : (Exchange.rows (togetherCall d config text) answer :: log)[i]? = some x) :
    x.call.budget? = callBudget? config (first :: second :: rest) i := by
  cases i with
  | zero =>
    obtain rfl := Option.some.inj hx
    exact (if_pos ⟨rfl, by simp⟩).symm
  | succ i =>
    rw [budget_of_calls h x (List.mem_of_getElem? hx)]
    exact (if_neg fun h => absurd h.1 (Nat.succ_ne_zero i)).symm

/-- Only the call for all rows of a batch has a budget. -/
theorem BatchRun.budget_eq (h : BatchRun flag d config batch log outcome) {i : Nat} {x : Exchange}
    (hx : log[i]? = some x) : x.call.budget? = callBudget? config batch i := by
  cases h with
  | empty => cases hx
  | reserved hindex => cases hx
  | single hindex hrow => exact budget_of_single hrow hx
  | singleFailed hindex hrow => exact budget_of_single hrow hx
  | unsendable hindex htext => cases hx
  | answered hindex htext solutions =>
    exact budget_of_together "" [] rfl hx
  | failed hindex htext hrecoverable =>
    exact budget_of_together "" [] rfl hx
  | retried hindex htext hrecoverable hretry =>
    obtain ⟨k, hk⟩ := hretry.exists_calls
    exact budget_of_together _ _ hk hx

theorem budget_of_trace (h : (evaluateBatch config d batch).Trace flag log outcome) :
    ∀ x ∈ log, x.call.budget? = none ∨ x.call.budget? = some config.batchTimeout := by
  intro x hx
  obtain ⟨i, hi⟩ := List.mem_iff_getElem?.1 hx
  rw [(batchRun_of_trace h).budget_eq hi]
  unfold callBudget?
  split
  · exact .inr rfl
  · exact .inl rfl

end

/-! ## Main result -/

/-- How long the answers to the calls of a batch are awaited: that to the call for several rows
until it arrives or the time for batches is over, and all others until they arrive. -/
def AwaitedInFull (config : Config) (batch : List Row) (waits : List Wait) : Prop :=
  ∀ i x, waits[i]? = some x →
    if i = 0 ∧ 2 ≤ batch.length then
      x.call.budget? = some config.batchTimeout ∧ x.waited = min x.delay config.batchTimeout
    else x.call.budget? = none ∧ x.waited = x.delay

section

variable {σ : Type} (service : Service σ) (config : Config) (d : Descriptor) (batch : List Row)

theorem awaitedInFull_waits (w : σ) :
    AwaitedInFull config batch ((evaluateBatch config d batch).waits service w) := by
  intro i x hx
  have hcalls : (((evaluateBatch config d batch).exchanges service (fun _ => false) w).map
      Exchange.call)[i]? = some x.call := by
    rw [← Evaluation.recorded_eq_map_exchanges, ← Evaluation.map_call_waits, List.getElem?_map, hx]
    rfl
  rw [List.getElem?_map] at hcalls
  obtain ⟨exchange, hexchange, hcall⟩ := Option.map_eq_some_iff.1 hcalls
  obtain ⟨outcome, htrace⟩ :=
    (evaluateBatch config d batch).trace_exchanges service (fun _ => false) w
  have hbudget := (batchRun_of_trace htrace).budget_eq hexchange
  have hwaited := Evaluation.forall_waits service
    (motive := fun x => x.waited = match x.call.budget? with
      | none => x.delay
      | some budget => min x.delay budget)
    (fun call w => (service.select call w).1.waited_wait call)
    (fun call w => (service.ask call w).1.waited_wait call) (evaluateBatch config d batch) w x
    (List.mem_of_getElem? hx)
  rw [hcall, callBudget?] at hbudget
  split <;> rename_i hfirst
  · rw [if_pos hfirst] at hbudget
    rw [hbudget] at hwaited
    exact ⟨hbudget, hwaited⟩
  · rw [if_neg hfirst] at hbudget
    rw [hbudget] at hwaited
    exact ⟨hbudget, hwaited⟩

/-- An evaluation of several rows whose call is answered too late goes on with the rows one by one,
whatever the answer is. -/
theorem runToEnd_of_late {first second : Row} {rest : List Row} {text : String} {w : σ}
    (hindex : config.rowIndex ∉ d.declared)
    (htext : togetherText d config (first :: second :: rest) = .ok text)
    (hlate : config.batchTimeout < (service.select (togetherCall d config text) w).1.delay) :
    (evaluateBatch config d (first :: second :: rest)).runToEnd service w =
      ((retry d (togetherQuery d config (first :: second :: rest)) config.rowIndex
        (first :: second :: rest)).map fun rows => .ok (rows.silentIf d.silent)).runToEnd service
          (service.select (togetherCall d config text) w).2 := by
  have hvalue : ((service.select (togetherCall d config text) w).1.within
      (togetherCall d config text).budget?).value = .error (.timeout config.batchTimeout) :=
    congrArg Delayed.value (if_pos hlate)
  rw [evaluateBatch_of_togetherText hindex htext, Evaluation.runToEnd, Evaluation.run, hvalue]
  rfl

end

/-- **A late answer is a failure.** A batch comes to the same outcome, makes the same calls and
leaves the service in the same state, whether answers take their time or the service is prompt: one
that gives every answer at once, and in place of an answer to the call for several rows that would
take longer than the time for batches the failure to be in time. With a prompt service nobody waits.
Otherwise the call for several rows is awaited until its answer arrives or the time for batches is
over, and all other calls until their answers arrive. If it is over, the rows are tried one by one,
in the state in which the service is after the call, and the late answer plays no part.

**Proof sketch.** The calls of a batch have the time for batches as their budget or none
(`BatchRun.budget_eq`), and by such calls delays are not noticed (`Service.agreeOn_prompt`). -/
theorem evaluateBatch_of_late {σ : Type} (service : Service σ) (config : Config) (d : Descriptor)
    (batch : List Row) (w : σ) :
    (evaluateBatch config d batch).runToEnd service.recording (w, []) =
      (evaluateBatch config d batch).runToEnd (service.prompt config.batchTimeout).recording
        (w, []) ∧
    (∀ x ∈ (evaluateBatch config d batch).waits (service.prompt config.batchTimeout) w,
      x.waited = .zero) ∧
    AwaitedInFull config batch ((evaluateBatch config d batch).waits service w) ∧
    ((evaluateBatch config d batch).waits service w).map Wait.call =
      ((evaluateBatch config d batch).runToEnd service.recording (w, [])).2.2 ∧
    ∀ text, 2 ≤ batch.length → config.rowIndex ∉ d.declared →
      togetherText d config batch = .ok text →
      config.batchTimeout < (service.select (togetherCall d config text) w).1.delay →
      (evaluateBatch config d batch).runToEnd service.recording (w, []) =
        ((retry d (togetherQuery d config batch) config.rowIndex batch).map
          fun rows => .ok (rows.silentIf d.silent)).runToEnd service.recording
            ((service.select (togetherCall d config text) w).2, [togetherCall d config text]) := by
  refine ⟨?_, ?_, awaitedInFull_waits service config d batch w,
    Evaluation.map_call_waits service _ w, fun text hlength hindex htext hlate => ?_⟩
  · refine Evaluation.run_of_agreeOn (fun _ => false) (fun log outcome htrace x hx => ?_) (w, [])
    exact (service.agreeOn_prompt (budget_of_trace htrace x hx)).recording
  · exact Evaluation.forall_waits (service.prompt config.batchTimeout)
      (fun call w => (service.select call w).1.waited_prompt config.batchTimeout call)
      (fun call w => (service.ask call w).1.waited_prompt config.batchTimeout call) _ w
  · match batch, hlength with
    | first :: second :: rest, _ =>
      exact runToEnd_of_late service.recording config d hindex htext hlate

/-- An endpoint that takes too long for two things together, and even longer for each of them. -/
def slowScript : Script :=
  [⟨"VALUES", none, .ofSeconds 90, .ok (.ofRows ["n"] [tagRow (numberRow "late") "0"]), .ok true⟩,
    ⟨"\"a\"", none, .ofSeconds 300, .ok (.ofRows ["n"] [numberRow "1"]), .ok true⟩,
    ⟨"\"b\"", some 1, .ofSeconds 400, .ok (.ofRows ["n"] [numberRow "2"]), .ok true⟩]

/-- After a minute two things are tried one by one, and their answers are awaited. -/
theorem slow_things_retried :
    (outcomeItems ((evaluateBatch {} numberClause twoThings).runToEnd Script.service.recording
        (slowScript, [])).1).map Except.toOption =
      [some ((Row.empty.insert "x" (.literal (.plain "a"))).insert "n" (.literal (.plain "1"))),
        some ((Row.empty.insert "x" (.literal (.plain "b"))).insert "n" (.literal (.plain "2")))] ∧
    ((evaluateBatch {} numberClause twoThings).runToEnd
        (Script.service.prompt ({} : Config).batchTimeout).recording
        (slowScript, [])).2.2.length = 3 ∧
    ((evaluateBatch {} numberClause twoThings).waits Script.service slowScript).map (·.waited) =
      [.ofSeconds 60, .ofSeconds 300, .ofSeconds 400] := by
  obtain ⟨hsame, -, -, -, hlate⟩ :=
    evaluateBatch_of_late Script.service {} numberClause twoThings slowScript
  cases htext : togetherText numberClause {} twoThings with
  | error e =>
    have hsome : (togetherText numberClause {} twoThings).toOption.isSome = true := by
      decide +kernel
    simp [htext, Except.toOption] at hsome
  | ok text =>
    have hvalue : (togetherText numberClause {} twoThings).toOption =
        some ("SELECT * WHERE \x7b ?x <http://example.org/number> ?n \x7d" ++
          " VALUES (?__rowIdx ?x) \x7b  (\"0\" \"a\" ) (\"1\" \"b\" ) \x7d") := by decide +kernel
    rw [htext] at hvalue
    obtain rfl := Option.some.inj hvalue
    have hrun := hlate _ (by decide) (by decide +kernel) htext (by decide +kernel)
    refine ⟨?_, ?_, by decide +kernel⟩
    · rw [hrun]
      decide +kernel
    · rw [← hsame, hrun]
      decide +kernel

end ServiceClause
