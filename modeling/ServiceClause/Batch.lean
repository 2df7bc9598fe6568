import ServiceClause.Config
import ServiceClause.Descriptor
import ServiceClause.Query.InlineData
import ServiceClause.Query.PreBinding
import ServiceClause.Remote.Course

/-!
# Evaluating a batch of rows

A single row is evaluated with its bindings put into the text of the query. Several rows are sent
together: if they bind variables of the clause, these bindings follow the query as inline data with
the number of each row, and the answers are joined back by that number; otherwise every answer
belongs to every row. If such a query fails in execution, its rows are tried one by one. The text of
the query is rendered before anything is sent, and all calls of the batch share it.

A silent clause keeps the input rows where their evaluation fails, and drops what follows an error
among the answers. A malformed query is reported all the same.

## Main definitions

* `ServiceClause.evaluateSelect`, `ServiceClause.evaluateAsk` — one row.
* `ServiceClause.retry` — rows one by one, after a query for all of them has failed.
* `ServiceClause.recover` — what a failure of the whole batch gives.
* `ServiceClause.batchCourse` — a batch whose query is still to be rendered.
* `ServiceClause.evaluateBatch` — a batch.
-/

set_option autoImplicit false

namespace ServiceClause

/-! ## One row -/

/-- The query for the rows that extend `row`. -/
def evaluateSelect (query : String) (row : Row) (base? : Option String) (declared : NameSet) :
    Evaluation (Outcome RowSequence) :=
  match preBind query row declared with
  | .error e => .done (.error e)
  | .ok text => .select ⟨.select, text, base?, none⟩ fun answer =>
      .done (answer.map fun solutions => solutions.toSequence.insert row)

/-- The query whether to keep `row`. -/
def evaluateAsk (query : String) (row : Row) (base? : Option String) (declared : NameSet) :
    Evaluation (Outcome RowSequence) :=
  match preBind query row declared with
  | .error e => .done (.error e)
  | .ok text => .ask ⟨.ask, text, base?, none⟩ fun answer =>
      .done (answer.map fun keep => if keep then .one row else .empty)

/-- The query of the given form for one row. -/
def evaluateRow (form : QueryForm) (query : String) (row : Row) (base? : Option String)
    (declared : NameSet) : Evaluation (Outcome RowSequence) :=
  match form with
  | .select => evaluateSelect query row base? declared
  | .ask => evaluateAsk query row base? declared

/-! ## Failures -/

/-- Whether the clause hides an error. -/
def Descriptor.hides (d : Descriptor) (e : FederationError) : Bool := d.silent && !e.isMalformed

/-- What a failure of a whole batch gives: its rows as they are if the clause hides the error. -/
def recover (d : Descriptor) (batch : List Row) (e : FederationError) : Outcome RowSequence :=
  if d.hides e then .ok (.ofRows batch) else .error e

/-- The sequences that the rows of a batch give one by one. A row whose error is hidden gives
itself; another error ends the retry, and so does cancellation. The number of the row, which the
text of the query still selects, is removed from the answers. -/
def retryParts (d : Descriptor) (query : String) (rowIndex : Name) :
    List Row → Evaluation (List RowSequence)
  | [] => .done []
  | row :: rest => .poll fun cancelled =>
    if cancelled then .done []
    else (evaluateSelect query row d.base? d.declared).bind fun
      | .ok rows =>
        (retryParts d query rowIndex rest).map (((rows.strip rowIndex).silentIf d.silent) :: ·)
      | .error e =>
        if d.hides e then (retryParts d query rowIndex rest).map (.one row :: ·)
        else .done [.failing e]

/-- The rows of a batch one by one. -/
def retry (d : Descriptor) (query : String) (rowIndex : Name) (batch : List Row) :
    Evaluation RowSequence :=
  (retryParts d query rowIndex batch).map .chain

/-! ## Batches -/

/-- The text that asks for all rows of a batch together: the query and the bindings of the rows. -/
def batchText (query : String) (batch : List Row) (relevant : List Name) (rowIndex : Name) :
    Outcome String :=
  if relevant.isEmpty then .ok query
  else (inlineData batch relevant rowIndex).map (query ++ ·)

/-- The rows of an answer to a query for all rows of a batch, joined to the rows that they belong
to. -/
def joinAnswer (d : Descriptor) (batch : List Row) (relevant : List Name) (rowIndex : Name)
    (solutions : Solutions) : RowSequence :=
  (if relevant.isEmpty then solutions.toSequence.cross batch
    else solutions.toSequence.join batch rowIndex).silentIf d.silent

/-- Evaluates several rows together. `query` selects the row index as well. -/
def evaluateTogether (config : Config) (d : Descriptor) (query : String) (batch : List Row) :
    Evaluation (Outcome RowSequence) :=
  let relevant := relevantNames batch d.declared
  match batchText query batch relevant config.rowIndex with
  | .error e => .done (recover d batch e)
  | .ok text => .select ⟨.select, text, d.base?, some config.batchTimeout⟩ fun
    | .ok solutions => .done (.ok (joinAnswer d batch relevant config.rowIndex solutions))
    | .error e =>
      if e.isRecoverable then
        (retry d query config.rowIndex batch).map fun rows => .ok (rows.silentIf d.silent)
      else .done (recover d batch e)

/-- What a batch of one row makes of the outcome for this row. -/
def singleOutcome (d : Descriptor) (row : Row) : Outcome RowSequence → Outcome RowSequence
  | .ok rows => .ok (rows.silentIf d.silent)
  | .error e => recover d [row] e

/-- Evaluates a batch, for which the query is still to be rendered. -/
def batchCourse (config : Config) (d : Descriptor) (batch : List Row) :
    Course (Outcome RowSequence) :=
  match batch with
  | [] => .done (.ok .empty)
  | first :: rest =>
    if config.rowIndex ∈ d.declared then
      .done (.error (.reservedRowIndex d.endpoint config.rowIndex))
    else
      let projection := d.projection first.nameSet
      if rest.isEmpty then
        .render projection fun query =>
          .of ((evaluateSelect query first d.base? d.declared).map (singleOutcome d first))
      else
        .render (projection.insert config.rowIndex) fun query =>
          .of (evaluateTogether config d query batch)

/-- Evaluates a batch. An error means that nothing after the batch may be evaluated either. -/
def evaluateBatch (config : Config) (d : Descriptor) (batch : List Row) :
    Evaluation (Outcome RowSequence) :=
  (batchCourse config d batch).evaluation d.render

section

variable {config : Config} {d : Descriptor}

theorem batchCourse_of_reserved (h : config.rowIndex ∈ d.declared) (first : Row)
    (rest : List Row) : batchCourse config d (first :: rest) =
      .done (.error (.reservedRowIndex d.endpoint config.rowIndex)) := by
  rw [batchCourse, if_pos h]

theorem batchCourse_single (h : config.rowIndex ∉ d.declared) (row : Row) :
    batchCourse config d [row] = .render (d.projection row.nameSet) fun query =>
      .of ((evaluateSelect query row d.base? d.declared).map (singleOutcome d row)) := by
  rw [batchCourse, if_neg h]
  rfl

theorem batchCourse_several (h : config.rowIndex ∉ d.declared) (first second : Row)
    (rest : List Row) : batchCourse config d (first :: second :: rest) =
      .render ((d.projection first.nameSet).insert config.rowIndex) fun query =>
        .of (evaluateTogether config d query (first :: second :: rest)) := by
  rw [batchCourse, if_neg h]
  rfl

theorem evaluateBatch_of_reserved (h : config.rowIndex ∈ d.declared) (first : Row)
    (rest : List Row) : evaluateBatch config d (first :: rest) =
      .done (.error (.reservedRowIndex d.endpoint config.rowIndex)) := by
  rw [evaluateBatch, batchCourse_of_reserved h, Course.evaluation]

theorem evaluateBatch_single (h : config.rowIndex ∉ d.declared) (row : Row) :
    evaluateBatch config d [row] =
      (evaluateSelect (d.render (d.projection row.nameSet)) row d.base? d.declared).map
        (singleOutcome d row) := by
  rw [evaluateBatch, batchCourse_single h, Course.evaluation, Course.evaluation_of]

theorem evaluateBatch_several (h : config.rowIndex ∉ d.declared) (first second : Row)
    (rest : List Row) : evaluateBatch config d (first :: second :: rest) =
      evaluateTogether config d (d.render ((d.projection first.nameSet).insert config.rowIndex))
        (first :: second :: rest) := by
  rw [evaluateBatch, batchCourse_several h, Course.evaluation, Course.evaluation_of]

end

end ServiceClause
