import ServiceClause.Remote.Evaluation

/-!
# Evaluations and what they are answered

An evaluation is a tree of calls. Its *transcript* is the list of the calls that it makes on one way
through the tree, each with its answer. What holds of all transcripts holds for every service,
whatever it remembers, and at whatever moment the evaluation is cancelled.

## Main definitions

* `ServiceClause.Service.Refines` — a service whose states remember more than those of another.
* `ServiceClause.Exchange` — a call and its answer.
* `ServiceClause.Service.transcribing` — a service that remembers its exchanges.
* `ServiceClause.Evaluation.Trace` — the transcripts of an evaluation, with the results to which
  they lead.
* `ServiceClause.Evaluation.exchanges` — the transcript of a run.
* `ServiceClause.Service.AgreeOn` — two services that nobody can tell apart by a call.

## Main statements

* `ServiceClause.Evaluation.runToEnd_of_refines` — the result does not depend on what else the
  service remembers.
* `ServiceClause.Evaluation.trace_run` — what a service remembers is a transcript.
* `ServiceClause.Evaluation.run_of_agreeOn` — a run does not tell services apart that agree on its
  calls.
* `ServiceClause.Evaluation.run_keeps` — what every answer keeps holds after a run.
-/

set_option autoImplicit false

namespace ServiceClause

/-- An answer that is there at once comes within any budget. -/
theorem Delayed.within_of_zero {α : Type} {a : Delayed (Outcome α)} (h : a.delay = .zero)
    (budget? : Option Duration) : a.within budget? = a := by
  cases budget? with
  | none => rfl
  | some budget =>
    rw [Delayed.within, h, if_neg]
    exact Nat.not_lt_zero _

/-! ## Services that remember more -/

/-- `service'` answers as `service` does, but its states remember more; `f` forgets the rest. -/
structure Service.Refines {σ τ : Type} (service' : Service τ) (service : Service σ) (f : τ → σ) :
    Prop where
  /-- Queries for rows are answered alike. -/
  select : ∀ call w, (service'.select call w).1 = (service.select call (f w)).1 ∧
    f (service'.select call w).2 = (service.select call (f w)).2
  /-- Queries for a truth value are answered alike. -/
  ask : ∀ call w, (service'.ask call w).1 = (service.ask call (f w)).1 ∧
    f (service'.ask call w).2 = (service.ask call (f w)).2

theorem Service.recording_refines {σ : Type} (service : Service σ) :
    service.recording.Refines service Prod.fst :=
  ⟨fun _ _ => ⟨rfl, rfl⟩, fun _ _ => ⟨rfl, rfl⟩⟩

/-- An evaluation comes to the same result, whether the service remembers more or not.

**Proof sketch.** Induction on the evaluation. -/
theorem Evaluation.runToEnd_of_refines {α σ τ : Type} {service' : Service τ} {service : Service σ}
    {f : τ → σ} (h : service'.Refines service f) (e : Evaluation α) (w : τ) :
    e.runToEnd service (f w) = ((e.runToEnd service' w).1, f (e.runToEnd service' w).2) := by
  unfold Evaluation.runToEnd
  induction e generalizing w with
  | done a => rfl
  | select call resume ih =>
    obtain ⟨hanswer, hworld⟩ := h.select call w
    rw [Evaluation.run, Evaluation.run, ← hanswer, ← hworld, ih]
  | ask call resume ih =>
    obtain ⟨hanswer, hworld⟩ := h.ask call w
    rw [Evaluation.run, Evaluation.run, ← hanswer, ← hworld, ih]
  | poll resume ih =>
    rw [Evaluation.run, Evaluation.run, ih]

/-! ## Transcripts -/

/-- A call and its answer, as it arrives within the budget of the call. -/
inductive Exchange where
  /-- A query for rows. -/
  | rows (call : Call) (answer : Outcome Solutions)
  /-- A query for a truth value. -/
  | truth (call : Call) (answer : Outcome Bool)

namespace Exchange

/-- The call. -/
def call : Exchange → Call
  | rows call _ => call
  | truth call _ => call

/-- The error with which the call has failed, if it has. -/
def error? : Exchange → Option FederationError
  | rows _ (.error e) => some e
  | truth _ (.error e) => some e
  | _ => none

/-- Whether a service gives this answer in some state. -/
def IsAnswerOf {σ : Type} (service : Service σ) : Exchange → Prop
  | rows call answer => ∃ w, answer = ((service.select call w).1.within call.budget?).value
  | truth call answer => ∃ w, answer = ((service.ask call w).1.within call.budget?).value

end Exchange

/-- The service that also remembers all exchanges in their order. -/
def Service.transcribing {σ : Type} (service : Service σ) : Service (σ × List Exchange) where
  select call w :=
    ((service.select call w.1).1, ((service.select call w.1).2,
      w.2 ++ [.rows call ((service.select call w.1).1.within call.budget?).value]))
  ask call w :=
    ((service.ask call w.1).1, ((service.ask call w.1).2,
      w.2 ++ [.truth call ((service.ask call w.1).1.within call.budget?).value]))

theorem Service.transcribing_refines {σ : Type} (service : Service σ) :
    service.transcribing.Refines service Prod.fst :=
  ⟨fun _ _ => ⟨rfl, rfl⟩, fun _ _ => ⟨rfl, rfl⟩⟩

namespace Evaluation

variable {α β σ : Type}

/-! ## Running one evaluation after another -/

/-- Of two evaluations, one after the other, the second starts where the first has left the service.

**Proof sketch.** Induction on the first evaluation. -/
theorem run_bind (service : Service σ) (cancelled : σ → Bool) (f : α → Evaluation β)
    (e : Evaluation α) (w : σ) :
    (e.bind f).run service cancelled w =
      (f (e.run service cancelled w).1).run service cancelled (e.run service cancelled w).2 := by
  induction e generalizing w with
  | done a => rfl
  | select call resume ih => rw [bind, run, ih, run]
  | ask call resume ih => rw [bind, run, ih, run]
  | poll resume ih => rw [bind, run, ih, run]

theorem run_map (service : Service σ) (cancelled : σ → Bool) (f : α → β) (e : Evaluation α)
    (w : σ) : (e.map f).run service cancelled w =
      (f (e.run service cancelled w).1, (e.run service cancelled w).2) :=
  run_bind service cancelled (fun a => .done (f a)) e w

theorem runToEnd_bind (service : Service σ) (f : α → Evaluation β) (e : Evaluation α) (w : σ) :
    (e.bind f).runToEnd service w =
      (f (e.runToEnd service w).1).runToEnd service (e.runToEnd service w).2 :=
  run_bind service (fun _ => false) f e w

theorem runToEnd_map (service : Service σ) (f : α → β) (e : Evaluation α) (w : σ) :
    (e.map f).runToEnd service w = (f (e.runToEnd service w).1, (e.runToEnd service w).2) :=
  run_map service (fun _ => false) f e w

/-! ## Transcripts of evaluations -/

/-- An evaluation may go through the exchanges of a transcript and come to a result. `flag` says
what it may find when it looks whether it has been cancelled. -/
inductive Trace (flag : Bool → Prop) : Evaluation α → List Exchange → α → Prop where
  | done (a : α) : Trace flag (.done a) [] a
  | select {call : Call} {resume : Outcome Solutions → Evaluation α} {log : List Exchange} {a : α}
    (answer : Outcome Solutions) (rest : Trace flag (resume answer) log a) :
    Trace flag (.select call resume) (.rows call answer :: log) a
  | ask {call : Call} {resume : Outcome Bool → Evaluation α} {log : List Exchange} {a : α}
    (answer : Outcome Bool) (rest : Trace flag (resume answer) log a) :
    Trace flag (.ask call resume) (.truth call answer :: log) a
  | poll {resume : Bool → Evaluation α} {log : List Exchange} {a : α} (cancelled : Bool)
    (allowed : flag cancelled) (rest : Trace flag (resume cancelled) log a) :
    Trace flag (.poll resume) log a

variable {flag : Bool → Prop} {log : List Exchange}

theorem trace_done_iff {a b : α} : Trace flag (.done a) log b ↔ log = [] ∧ b = a := by
  constructor
  · rintro ⟨⟩
    exact ⟨rfl, rfl⟩
  · rintro ⟨rfl, rfl⟩
    exact .done b

/-- A transcript of two evaluations, one after the other, has a part for each of them.

**Proof sketch.** Induction on the first evaluation. -/
theorem trace_bind {f : α → Evaluation β} {e : Evaluation α} {b : β}
    (h : Trace flag (e.bind f) log b) :
    ∃ before after a, log = before ++ after ∧ Trace flag e before a ∧ Trace flag (f a) after b := by
  induction e generalizing log with
  | done a => exact ⟨[], log, a, rfl, .done a, h⟩
  | select call resume ih =>
    cases h with
    | select answer rest =>
      obtain ⟨before, after, a, rfl, he, hf⟩ := ih answer rest
      exact ⟨.rows call answer :: before, after, a, rfl, .select answer he, hf⟩
  | ask call resume ih =>
    cases h with
    | ask answer rest =>
      obtain ⟨before, after, a, rfl, he, hf⟩ := ih answer rest
      exact ⟨.truth call answer :: before, after, a, rfl, .ask answer he, hf⟩
  | poll resume ih =>
    cases h with
    | poll cancelled allowed rest =>
      obtain ⟨before, after, a, rfl, he, hf⟩ := ih cancelled rest
      exact ⟨before, after, a, rfl, .poll cancelled allowed he, hf⟩

theorem trace_map {f : α → β} {e : Evaluation α} {b : β} (h : Trace flag (e.map f) log b) :
    ∃ a, Trace flag e log a ∧ b = f a := by
  obtain ⟨before, after, a, rfl, he, hf⟩ := trace_bind h
  obtain ⟨rfl, rfl⟩ := trace_done_iff.1 hf
  exact ⟨a, by simpa using he, rfl⟩

/-- What a service remembers of an evaluation is a transcript of it, in which every answer is one
that the service gives.

**Proof sketch.** Induction on the evaluation. -/
theorem trace_run (service : Service σ) (flag : Bool → Prop) (cancelled : σ × List Exchange → Bool)
    (hflag : ∀ w, flag (cancelled w)) (e : Evaluation α) (w : σ) (old : List Exchange) :
    ∃ log, (e.run service.transcribing cancelled (w, old)).2.2 = old ++ log ∧
      Trace flag e log (e.run service.transcribing cancelled (w, old)).1 ∧
      ∀ x ∈ log, x.IsAnswerOf service := by
  induction e generalizing w old with
  | done a => exact ⟨[], by simp [run], .done a, by simp⟩
  | select call resume ih =>
    obtain ⟨log, hlog, htrace, hanswers⟩ := ih ((service.select call w).1.within call.budget?).value
      (service.select call w).2
      (old ++ [.rows call ((service.select call w).1.within call.budget?).value])
    refine ⟨_ :: log, ?_, .select _ htrace, ?_⟩
    · rw [List.append_cons]
      exact hlog
    · intro x hx
      rcases List.mem_cons.1 hx with rfl | hx
      · exact ⟨w, rfl⟩
      · exact hanswers x hx
  | ask call resume ih =>
    obtain ⟨log, hlog, htrace, hanswers⟩ := ih ((service.ask call w).1.within call.budget?).value
      (service.ask call w).2
      (old ++ [.truth call ((service.ask call w).1.within call.budget?).value])
    refine ⟨_ :: log, ?_, .ask _ htrace, ?_⟩
    · rw [List.append_cons]
      exact hlog
    · intro x hx
      rcases List.mem_cons.1 hx with rfl | hx
      · exact ⟨w, rfl⟩
      · exact hanswers x hx
  | poll resume ih =>
    obtain ⟨log, hlog, htrace, hanswers⟩ := ih (cancelled (w, old)) w old
    exact ⟨log, hlog, .poll _ (hflag _) htrace, hanswers⟩

/-- What a service exchanges with an evaluation that is run from its state `w`. -/
def exchanges (service : Service σ) (cancelled : σ × List Exchange → Bool) (e : Evaluation α)
    (w : σ) : List Exchange :=
  (e.run service.transcribing cancelled (w, [])).2.2

/-- The exchanges of an evaluation are a transcript of it. -/
theorem trace_exchanges (service : Service σ) (cancelled : σ × List Exchange → Bool)
    (e : Evaluation α) (w : σ) :
    ∃ a, Trace (fun _ => True) e (e.exchanges service cancelled w) a := by
  obtain ⟨log, hlog, htrace, -⟩ :=
    trace_run service (fun _ => True) cancelled (fun _ => trivial) e w []
  have hexchanges : e.exchanges service cancelled w = log := hlog
  exact ⟨_, hexchanges ▸ htrace⟩

/-- What a service remembers of an evaluation that nobody cancels is a transcript that leads to the
result, be it that the service remembers its exchanges or not. -/
theorem trace_runToEnd (service : Service σ) (e : Evaluation α) (w : σ) :
    Trace (· = false) e (e.runToEnd service.transcribing (w, [])).2.2 (e.runToEnd service w).1 ∧
      ∀ x ∈ (e.runToEnd service.transcribing (w, [])).2.2, x.IsAnswerOf service := by
  obtain ⟨log, hlog, htrace, hanswers⟩ :=
    trace_run service (· = false) (fun _ => false) (fun _ => rfl) e w []
  have hworld : (e.runToEnd service.transcribing (w, [])).2.2 = log := hlog
  have hresult : (e.runToEnd service w).1 = (e.runToEnd service.transcribing (w, [])).1 :=
    congrArg Prod.fst (e.runToEnd_of_refines service.transcribing_refines (w, []))
  rw [hworld, hresult]
  exact ⟨htrace, hanswers⟩

/-- The calls that a service records are those of its exchanges. -/
theorem recorded_eq_map_exchanges (service : Service σ) (e : Evaluation α) (w : σ) :
    (e.runToEnd service.recording (w, [])).2.2 =
      (e.exchanges service (fun _ => false) w).map Exchange.call := by
  have hrefines : service.transcribing.Refines service.recording
      (fun s => (s.1, s.2.map Exchange.call)) :=
    ⟨fun call s => ⟨rfl, by simp [Service.transcribing, Service.recording, Exchange.call]⟩,
      fun call s => ⟨rfl, by simp [Service.transcribing, Service.recording, Exchange.call]⟩⟩
  have hrun := e.runToEnd_of_refines hrefines (w, [])
  simp only [List.map_nil] at hrun
  rw [hrun]
  rfl

end Evaluation

/-! ## Services that agree -/

/-- Nobody can tell two services apart by a call: in every state they give the same answer to it
within its budget, and are in the same state after it. -/
structure Service.AgreeOn {σ : Type} (service service' : Service σ) (call : Call) : Prop where
  /-- Queries for rows are answered alike. -/
  select : ∀ w, ((service.select call w).1.within call.budget?).value =
      ((service'.select call w).1.within call.budget?).value ∧
    (service.select call w).2 = (service'.select call w).2
  /-- Queries for a truth value are answered alike. -/
  ask : ∀ w, ((service.ask call w).1.within call.budget?).value =
      ((service'.ask call w).1.within call.budget?).value ∧
    (service.ask call w).2 = (service'.ask call w).2

/-- Services that agree on a call agree on it while they record their calls. -/
theorem Service.AgreeOn.recording {σ : Type} {service service' : Service σ} {call : Call}
    (h : service.AgreeOn service' call) : service.recording.AgreeOn service'.recording call where
  select w := ⟨(h.select w.1).1, Prod.ext (h.select w.1).2 rfl⟩
  ask w := ⟨(h.ask w.1).1, Prod.ext (h.ask w.1).2 rfl⟩

namespace Evaluation

variable {α σ : Type}

/-- A run does not tell services apart that agree on every call that the evaluation may make.

**Proof sketch.** Induction on the evaluation. As every run has a transcript, the first call is one
that the evaluation may make, and so are the calls after it. -/
theorem run_of_agreeOn {service service' : Service σ} (cancelled : σ → Bool) {e : Evaluation α}
    (h : ∀ log a, Trace (fun _ => True) e log a → ∀ x ∈ log, service.AgreeOn service' x.call)
    (w : σ) : e.run service cancelled w = e.run service' cancelled w := by
  induction e generalizing w with
  | done a => rfl
  | select call resume ih =>
    obtain ⟨a, htrace⟩ :=
      (resume ((service.select call w).1.within call.budget?).value).trace_exchanges service
        (fun _ => false) w
    have hcall : service.AgreeOn service' call :=
      h _ a (.select _ htrace) _ List.mem_cons_self
    obtain ⟨hanswer, hworld⟩ := hcall.select w
    rw [run, run, ← hanswer, ← hworld]
    exact ih _ (fun log b hlog x hx => h _ b (.select _ hlog) x (List.mem_cons_of_mem _ hx)) _
  | ask call resume ih =>
    obtain ⟨a, htrace⟩ :=
      (resume ((service.ask call w).1.within call.budget?).value).trace_exchanges service
        (fun _ => false) w
    have hcall : service.AgreeOn service' call :=
      h _ a (.ask _ htrace) _ List.mem_cons_self
    obtain ⟨hanswer, hworld⟩ := hcall.ask w
    rw [run, run, ← hanswer, ← hworld]
    exact ih _ (fun log b hlog x hx => h _ b (.ask _ hlog) x (List.mem_cons_of_mem _ hx)) _
  | poll resume ih =>
    rw [run, run]
    exact ih _ (fun log b hlog => h log b (.poll _ trivial hlog)) w

/-- What every answer keeps of the state of a service holds after a run. -/
theorem run_keeps (service : Service σ) {motive : σ → Prop}
    (hselect : ∀ call w, motive w → motive (service.select call w).2)
    (hask : ∀ call w, motive w → motive (service.ask call w).2) (cancelled : σ → Bool)
    (e : Evaluation α) {w : σ} (hw : motive w) : motive (e.run service cancelled w).2 := by
  induction e generalizing w with
  | done a => exact hw
  | select call resume ih => exact ih _ (hselect call w hw)
  | ask call resume ih => exact ih _ (hask call w hw)
  | poll resume ih => exact ih _ hw

end Evaluation

end ServiceClause
