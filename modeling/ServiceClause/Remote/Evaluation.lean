import ServiceClause.Remote.Call

/-!
# Evaluations

An evaluation is a computation that calls an endpoint, each next call depending on the answers so
far, and that may look whether it has been cancelled. It is a tree, so that it can be run at once,
run until it has to wait, or reasoned about without any endpoint.

## Main definitions

* `ServiceClause.Evaluation` — a computation that calls an endpoint.
* `ServiceClause.Evaluation.bind` — one evaluation after another.
* `ServiceClause.Evaluation.run` — the result, with every answer awaited.
* `ServiceClause.Evaluation.child_wf` — every evaluation ends, whatever it is answered.
-/

set_option autoImplicit false

namespace ServiceClause

/-- A computation that calls an endpoint. -/
inductive Evaluation (α : Type) where
  /-- The computation has ended. -/
  | done (result : α)
  /-- A query for rows is sent, and the computation goes on with the answer. -/
  | select (call : Call) (resume : Outcome Solutions → Evaluation α)
  /-- A query for a truth value is sent, and the computation goes on with the answer. -/
  | ask (call : Call) (resume : Outcome Bool → Evaluation α)
  /-- The computation goes on with whether it has been cancelled. -/
  | poll (resume : Bool → Evaluation α)

namespace Evaluation

variable {α β σ : Type}

/-- One evaluation and then another, which depends on the result of the first. -/
def bind (f : α → Evaluation β) : Evaluation α → Evaluation β
  | done a => f a
  | select call resume => select call fun answer => (resume answer).bind f
  | ask call resume => ask call fun answer => (resume answer).bind f
  | poll resume => poll fun cancelled => (resume cancelled).bind f

/-- An evaluation with its result changed by `f`. -/
def map (f : α → β) : Evaluation α → Evaluation β :=
  bind fun a => done (f a)

/-- Runs an evaluation: every call is answered by the service, and every answer is awaited as long
as the budget of its call allows. Whether the evaluation has been cancelled depends on the state of
the service. -/
def run (service : Service σ) (cancelled : σ → Bool) : Evaluation α → σ → α × σ
  | done a, s => (a, s)
  | select call resume, s =>
    (resume ((service.select call s).1.within call.budget?).value).run service cancelled
      (service.select call s).2
  | ask call resume, s =>
    (resume ((service.ask call s).1.within call.budget?).value).run service cancelled
      (service.ask call s).2
  | poll resume, s => (resume (cancelled s)).run service cancelled s

/-- Runs an evaluation that nobody cancels. -/
def runToEnd (service : Service σ) (e : Evaluation α) (s : σ) : α × σ :=
  e.run service (fun _ => false) s

/-- How an evaluation may go on after one step. -/
inductive Child : Evaluation α → Evaluation α → Prop where
  | select {call : Call} {resume : Outcome Solutions → Evaluation α} (answer : Outcome Solutions) :
    Child (resume answer) (.select call resume)
  | ask {call : Call} {resume : Outcome Bool → Evaluation α} (answer : Outcome Bool) :
    Child (resume answer) (.ask call resume)
  | poll {resume : Bool → Evaluation α} (cancelled : Bool) : Child (resume cancelled) (.poll resume)

theorem child_wf : WellFounded (Child (α := α)) := by
  refine ⟨fun e => ?_⟩
  induction e with
  | done a => exact ⟨_, fun _ h => nomatch h⟩
  | select call resume ih => exact ⟨_, fun _ h => by cases h with | select a => exact ih a⟩
  | ask call resume ih => exact ⟨_, fun _ h => by cases h with | ask a => exact ih a⟩
  | poll resume ih => exact ⟨_, fun _ h => by cases h with | poll b => exact ih b⟩

instance : WellFoundedRelation (Evaluation α) := ⟨Child, child_wf⟩

end Evaluation

end ServiceClause
