import ServiceClause.Proofs.Batch.Runs

/-!
# Evaluations that are cancelled

An evaluation learns that it has been cancelled only when it looks. The evaluation of a batch looks
before each row of a retry, so whatever call is under way when it is cancelled is its last one. It
does not look before its first call.

## Main definitions

* `ServiceClause.Evaluation.Quiet` — no call comes any more if the evaluation has been cancelled.
* `ServiceClause.Evaluation.Careful` — after each call, no other one comes if it has been cancelled.
* `ServiceClause.Evaluation.Attentive` — both.

## Main statements

* `ServiceClause.careful_evaluateBatch` — the evaluation of a batch is careful.
-/

set_option autoImplicit false

namespace ServiceClause

namespace Evaluation

variable {α β : Type}

/-- Whether an evaluation makes no call any more if it has been cancelled. -/
inductive Quiet : Evaluation α → Prop where
  | done (a : α) : Quiet (.done a)
  | poll {resume : Bool → Evaluation α} (hcancelled : Quiet (resume true)) : Quiet (.poll resume)

/-- Whether each call of an evaluation is the last one if it is cancelled meanwhile, and whether it
makes none after it has learnt that it is cancelled. -/
inductive Careful : Evaluation α → Prop where
  | done (a : α) : Careful (.done a)
  | select {call : Call} {resume : Outcome Solutions → Evaluation α}
    (hquiet : ∀ answer, Quiet (resume answer)) (hrest : ∀ answer, Careful (resume answer)) :
    Careful (.select call resume)
  | ask {call : Call} {resume : Outcome Bool → Evaluation α}
    (hquiet : ∀ answer, Quiet (resume answer)) (hrest : ∀ answer, Careful (resume answer)) :
    Careful (.ask call resume)
  | poll {resume : Bool → Evaluation α} (hquiet : Quiet (resume true))
    (hrest : ∀ cancelled, Careful (resume cancelled)) : Careful (.poll resume)

/-- Whether an evaluation looks before its first call and is careful afterwards. -/
structure Attentive (e : Evaluation α) : Prop where
  /-- It makes no call any more if it has been cancelled. -/
  quiet : Quiet e
  /-- Each of its calls is the last one if it is cancelled meanwhile. -/
  careful : Careful e

theorem attentive_done (a : α) : Attentive (done a) := ⟨.done a, .done a⟩

theorem careful_select {call : Call} {resume : Outcome Solutions → Evaluation α}
    (h : ∀ answer, Attentive (resume answer)) : Careful (select call resume) :=
  .select (fun answer => (h answer).quiet) fun answer => (h answer).careful

theorem quiet_bind {f : α → Evaluation β} {e : Evaluation α} (he : Quiet e)
    (hf : ∀ a, Attentive (f a)) : Quiet (e.bind f) := by
  induction he with
  | done a => exact (hf a).quiet
  | poll _ ih => exact .poll ih

/-- One evaluation after another is careful if the second one looks before its first call.

**Proof sketch.** Induction on the first evaluation. -/
theorem careful_bind {f : α → Evaluation β} {e : Evaluation α} (he : Careful e)
    (hf : ∀ a, Attentive (f a)) : Careful (e.bind f) := by
  induction he with
  | done a => exact (hf a).careful
  | select hafter _ ih => exact .select (fun answer => quiet_bind (hafter answer) hf) ih
  | ask hafter _ ih => exact .ask (fun answer => quiet_bind (hafter answer) hf) ih
  | poll hafter _ ih => exact .poll (quiet_bind hafter hf) ih

theorem careful_map {f : α → β} {e : Evaluation α} (he : Careful e) : Careful (e.map f) :=
  careful_bind he fun a => attentive_done (f a)

theorem attentive_map {f : α → β} {e : Evaluation α} (he : Attentive e) : Attentive (e.map f) :=
  ⟨quiet_bind he.quiet fun a => attentive_done (f a), careful_map he.careful⟩

end Evaluation

open Evaluation

theorem careful_evaluateSelect (query : String) (row : Row) (base? : Option String)
    (declared : NameSet) : Careful (evaluateSelect query row base? declared) := by
  unfold evaluateSelect
  cases preBind query row declared with
  | error e => exact .done _
  | ok text => exact careful_select fun _ => attentive_done _

/-- A retry looks before each row.

**Proof sketch.** Induction on the rows. -/
theorem attentive_retryParts (d : Descriptor) (query : String) (rowIndex : Name)
    (rows : List Row) : Attentive (retryParts d query rowIndex rows) := by
  induction rows with
  | nil => exact attentive_done _
  | cons row rest ih =>
    rw [retryParts]
    refine ⟨.poll (.done _), .poll (.done _) fun cancelled => ?_⟩
    cases cancelled with
    | true => exact .done _
    | false =>
      refine careful_bind (careful_evaluateSelect query row d.base? d.declared) fun outcome => ?_
      cases outcome with
      | ok rows => exact attentive_map ih
      | error e =>
        simp only
        split
        · exact attentive_map ih
        · exact attentive_done _

/-- **The evaluation of a batch is careful.** Its first call is the only one that it may make without
looking whether it has been cancelled.

**Proof sketch.** The cases are those of the definition. After the query for all rows, only a retry
makes further calls. -/
theorem careful_evaluateBatch (config : Config) (d : Descriptor) (batch : List Row) :
    Careful (evaluateBatch config d batch) := by
  by_cases hindex : config.rowIndex ∈ d.declared
  · cases batch with
    | nil => exact .done _
    | cons first rest =>
      rw [evaluateBatch_of_reserved hindex]
      exact .done _
  · rcases batch with _ | ⟨row, _ | ⟨second, rest⟩⟩
    · exact .done _
    · rw [evaluateBatch_single hindex]
      exact careful_map (careful_evaluateSelect _ row d.base? d.declared)
    · cases htext : togetherText d config (row :: second :: rest) with
      | error e =>
        rw [evaluateBatch_of_togetherText_error hindex htext]
        exact .done _
      | ok text =>
        rw [evaluateBatch_of_togetherText hindex htext]
        refine careful_select fun answer => ?_
        cases answer with
        | ok solutions => exact attentive_done _
        | error e =>
          simp only
          split
          · exact attentive_map (attentive_map (attentive_retryParts d _ config.rowIndex _))
          · exact attentive_done _

end ServiceClause
