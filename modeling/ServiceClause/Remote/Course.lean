import ServiceClause.NameSet
import ServiceClause.Remote.Evaluation

/-!
# Courses

A course is an evaluation whose queries are still to be rendered: it may ask for the text of a query
at any moment, before its first call as well as between two of them. Given a renderer, it is an
evaluation. A run of a course remembers what has been rendered.

## Main definitions

* `ServiceClause.Course` — a computation that has queries rendered and calls an endpoint.
* `ServiceClause.Course.of` — an evaluation as a course that renders nothing.
* `ServiceClause.Course.evaluation` — what a course is for a given renderer.
* `ServiceClause.Course.run` — the result, and what has been rendered on the way.

## Main statements

* `ServiceClause.Course.run_eq` — a course runs like the evaluation that it is.
* `ServiceClause.Course.rendered_of` — where nothing is to be rendered, nothing is.
-/

set_option autoImplicit false

namespace ServiceClause

/-- A computation that has queries rendered and calls an endpoint. -/
inductive Course (α : Type) where
  /-- The computation has ended. -/
  | done (result : α)
  /-- The query that selects the given variables is rendered, and the computation goes on with its
  text. -/
  | render (names : NameSet) (resume : String → Course α)
  /-- A query for rows is sent, and the computation goes on with the answer. -/
  | select (call : Call) (resume : Outcome Solutions → Course α)
  /-- A query for a truth value is sent, and the computation goes on with the answer. -/
  | ask (call : Call) (resume : Outcome Bool → Course α)
  /-- The computation goes on with whether it has been cancelled. -/
  | poll (resume : Bool → Course α)

namespace Course

variable {α σ : Type}

/-- The course of an evaluation, in which nothing is rendered. -/
def of : Evaluation α → Course α
  | .done a => done a
  | .select call resume => select call fun answer => of (resume answer)
  | .ask call resume => ask call fun answer => of (resume answer)
  | .poll resume => poll fun cancelled => of (resume cancelled)

/-- The evaluation that a course is if queries are rendered like this. -/
def evaluation (render : NameSet → String) : Course α → Evaluation α
  | done a => .done a
  | .render names resume => (resume (render names)).evaluation render
  | select call resume => .select call fun answer => (resume answer).evaluation render
  | ask call resume => .ask call fun answer => (resume answer).evaluation render
  | poll resume => .poll fun cancelled => (resume cancelled).evaluation render

/-- Runs a course like an evaluation. Beside the state of the service, the run remembers for which
variables queries have been rendered. -/
def run (render : NameSet → String) (service : Service σ) (cancelled : σ → Bool) :
    Course α → σ × List NameSet → α × σ × List NameSet
  | done a, s => (a, s)
  | .render names resume, s =>
    (resume (render names)).run render service cancelled (s.1, s.2 ++ [names])
  | select call resume, s =>
    (resume ((service.select call s.1).1.within call.budget?).value).run render service cancelled
      ((service.select call s.1).2, s.2)
  | ask call resume, s =>
    (resume ((service.ask call s.1).1.within call.budget?).value).run render service cancelled
      ((service.ask call s.1).2, s.2)
  | poll resume, s => (resume (cancelled s.1)).run render service cancelled s

@[simp]
theorem evaluation_of (render : NameSet → String) (e : Evaluation α) :
    (of e).evaluation render = e := by
  induction e with
  | done a => rfl
  | select call resume ih => simp only [of, evaluation, ih]
  | ask call resume ih => simp only [of, evaluation, ih]
  | poll resume ih => simp only [of, evaluation, ih]

variable (render : NameSet → String) (service : Service σ) (cancelled : σ → Bool)

/-- A course runs like the evaluation that it is.

**Proof sketch.** Induction on the course. -/
theorem run_eq (c : Course α) (w : σ) (rendered : List NameSet) :
    ((c.run render service cancelled (w, rendered)).1,
        (c.run render service cancelled (w, rendered)).2.1) =
      (c.evaluation render).run service cancelled w := by
  induction c generalizing w rendered with
  | done a => rfl
  | render names resume ih => exact ih _ w _
  | select call resume ih => exact ih _ _ rendered
  | ask call resume ih => exact ih _ _ rendered
  | poll resume ih => exact ih _ w rendered

/-- In a run of an evaluation nothing is rendered.

**Proof sketch.** Induction on the evaluation. -/
theorem rendered_of (e : Evaluation α) (w : σ) (rendered : List NameSet) :
    ((of e).run render service cancelled (w, rendered)).2.2 = rendered := by
  induction e generalizing w with
  | done a => rfl
  | select call resume ih => exact ih _ _
  | ask call resume ih => exact ih _ _
  | poll resume ih => exact ih _ w

end Course

end ServiceClause
