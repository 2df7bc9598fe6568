import ServiceClause.Batch
import ServiceClause.Proofs.Evaluations

/-!
# What the evaluation of a batch can do

The evaluation of a batch is a tree of calls. Its transcripts fall into few kinds, one for each way
in which a batch is answered or fails. Whatever holds of these kinds holds of every evaluation of a
batch, so nothing about batches has to be proved by looking into their definition again.

## Main definitions

* `ServiceClause.SelectRun` — the query for the rows that extend one row.
* `ServiceClause.RetryRun` — the rows of a batch one by one.
* `ServiceClause.BatchRun` — a batch.
* `ServiceClause.outcomeItems` — what an outcome gives to the consumer.

## Main statements

* `ServiceClause.batchRun_of_trace` — every transcript of a batch is one of these.
-/

set_option autoImplicit false

namespace ServiceClause

/-- The items that an outcome gives: its rows, or the error that ends the evaluation. -/
def outcomeItems : Outcome RowSequence → List Item
  | .ok rows => rows.toList
  | .error e => [.error e]

/-! ## Kinds of transcripts -/

/-- What the query for the rows that extend `row` may exchange and give. -/
inductive SelectRun (query : String) (row : Row) (base? : Option String) (declared : NameSet) :
    List Exchange → Outcome RowSequence → Prop where
  /-- The values of the row cannot be written into the query. -/
  | unbindable {e : FederationError} (hbind : preBind query row declared = .error e) :
    SelectRun query row base? declared [] (.error e)
  /-- The query is sent and answered. -/
  | sent {text : String} (hbind : preBind query row declared = .ok text)
    (answer : Outcome Solutions) :
    SelectRun query row base? declared [.rows ⟨.select, text, base?, none⟩ answer]
      (answer.map fun solutions => solutions.toSequence.insert row)

section

variable (flag : Bool → Prop) (d : Descriptor)

/-- What the rows of a batch may exchange and give, one by one. `flag` says what the evaluation may
find when it looks whether it has been cancelled. -/
inductive RetryRun (query : String) (rowIndex : Name) :
    List Row → List Exchange → List RowSequence → Prop where
  /-- No row is left. -/
  | finished : RetryRun query rowIndex [] [] []
  /-- The evaluation has been cancelled. -/
  | cancelled {row : Row} {rest : List Row} (hflag : flag true) :
    RetryRun query rowIndex (row :: rest) [] []
  /-- The query for the first row is answered. -/
  | given {row : Row} {rest : List Row} {log later : List Exchange} {rows : RowSequence}
    {parts : List RowSequence} (hflag : flag false)
    (hrow : SelectRun query row d.base? d.declared log (.ok rows))
    (hrest : RetryRun query rowIndex rest later parts) :
    RetryRun query rowIndex (row :: rest) (log ++ later)
      ((rows.strip rowIndex).silentIf d.silent :: parts)
  /-- The query for the first row fails, which the clause hides. -/
  | hidden {row : Row} {rest : List Row} {log later : List Exchange} {e : FederationError}
    {parts : List RowSequence} (hflag : flag false)
    (hrow : SelectRun query row d.base? d.declared log (.error e)) (hhides : d.hides e = true)
    (hrest : RetryRun query rowIndex rest later parts) :
    RetryRun query rowIndex (row :: rest) (log ++ later) (.one row :: parts)
  /-- The query for the first row fails, which ends the retry. -/
  | failed {row : Row} {rest : List Row} {log : List Exchange} {e : FederationError}
    (hflag : flag false) (hrow : SelectRun query row d.base? d.declared log (.error e))
    (hhides : d.hides e = false) :
    RetryRun query rowIndex (row :: rest) log [.failing e]

variable (config : Config)

/-- The query for all rows of a batch, which selects the row index as well. The first row decides
which variables are left to select. -/
def togetherQuery (batch : List Row) : String :=
  d.render ((d.projection (batch.headD .empty).nameSet).insert config.rowIndex)

/-- The text that asks for all rows of a batch together. -/
def togetherText (batch : List Row) : Outcome String :=
  batchText (togetherQuery d config batch) batch (relevantNames batch d.declared) config.rowIndex

/-- The call for all rows of a batch, once its text is known. -/
def togetherCall (text : String) : Call := ⟨.select, text, d.base?, some config.batchTimeout⟩

/-- What a batch may exchange and give. -/
inductive BatchRun : List Row → List Exchange → Outcome RowSequence → Prop where
  /-- The batch has no rows. -/
  | empty : BatchRun [] [] (.ok .empty)
  /-- The clause declares the row index. -/
  | reserved {first : Row} {rest : List Row} (hindex : config.rowIndex ∈ d.declared) :
    BatchRun (first :: rest) [] (.error (.reservedRowIndex d.endpoint config.rowIndex))
  /-- A single row is answered. -/
  | single {row : Row} {log : List Exchange} {rows : RowSequence}
    (hindex : config.rowIndex ∉ d.declared)
    (hrow : SelectRun (d.render (d.projection row.nameSet)) row d.base? d.declared log (.ok rows)) :
    BatchRun [row] log (.ok (rows.silentIf d.silent))
  /-- A single row fails. -/
  | singleFailed {row : Row} {log : List Exchange} {e : FederationError}
    (hindex : config.rowIndex ∉ d.declared)
    (hrow : SelectRun (d.render (d.projection row.nameSet)) row d.base? d.declared log (.error e)) :
    BatchRun [row] log (recover d [row] e)
  /-- The values of several rows cannot be written down. -/
  | unsendable {first second : Row} {rest : List Row} {e : FederationError}
    (hindex : config.rowIndex ∉ d.declared)
    (htext : togetherText d config (first :: second :: rest) = .error e) :
    BatchRun (first :: second :: rest) [] (recover d (first :: second :: rest) e)
  /-- Several rows are answered together. -/
  | answered {first second : Row} {rest : List Row} {text : String}
    (hindex : config.rowIndex ∉ d.declared)
    (htext : togetherText d config (first :: second :: rest) = .ok text)
    (solutions : Solutions) :
    BatchRun (first :: second :: rest) [.rows (togetherCall d config text) (.ok solutions)]
      (.ok (joinAnswer d (first :: second :: rest)
        (relevantNames (first :: second :: rest) d.declared) config.rowIndex solutions))
  /-- Several rows fail together. -/
  | failed {first second : Row} {rest : List Row} {text : String} {e : FederationError}
    (hindex : config.rowIndex ∉ d.declared)
    (htext : togetherText d config (first :: second :: rest) = .ok text)
    (hrecoverable : e.isRecoverable = false) :
    BatchRun (first :: second :: rest) [.rows (togetherCall d config text) (.error e)]
      (recover d (first :: second :: rest) e)
  /-- Several rows fail together and are then tried one by one. -/
  | retried {first second : Row} {rest : List Row} {text : String} {e : FederationError}
    {log : List Exchange} {parts : List RowSequence} (hindex : config.rowIndex ∉ d.declared)
    (htext : togetherText d config (first :: second :: rest) = .ok text)
    (hrecoverable : e.isRecoverable = true)
    (hretry : RetryRun flag d (togetherQuery d config (first :: second :: rest)) config.rowIndex
      (first :: second :: rest) log parts) :
    BatchRun (first :: second :: rest) (.rows (togetherCall d config text) (.error e) :: log)
      (.ok ((RowSequence.chain parts).silentIf d.silent))

end

/-! ## Every transcript is of these kinds -/

section

variable {flag : Bool → Prop} {d : Descriptor} {log : List Exchange}

theorem selectRun_of_trace {query : String} {row : Row} {base? : Option String}
    {declared : NameSet} {outcome : Outcome RowSequence}
    (h : (evaluateSelect query row base? declared).Trace flag log outcome) :
    SelectRun query row base? declared log outcome := by
  unfold evaluateSelect at h
  cases hbind : preBind query row declared with
  | error e =>
    rw [hbind] at h
    obtain ⟨rfl, rfl⟩ := Evaluation.trace_done_iff.1 h
    exact .unbindable hbind
  | ok text =>
    rw [hbind] at h
    cases h with
    | select answer rest =>
      obtain ⟨rfl, rfl⟩ := Evaluation.trace_done_iff.1 rest
      exact .sent hbind answer

/-- **Proof sketch.** Induction on the rows. A transcript of the first row and the later ones has a
part for the first row (`Evaluation.trace_bind`), and what comes after depends on its outcome. -/
theorem retryRun_of_trace {query : String} {rowIndex : Name} {rows : List Row}
    {parts : List RowSequence} (h : (retryParts d query rowIndex rows).Trace flag log parts) :
    RetryRun flag d query rowIndex rows log parts := by
  induction rows generalizing log parts with
  | nil =>
    obtain ⟨rfl, rfl⟩ := Evaluation.trace_done_iff.1 h
    exact .finished
  | cons row rest ih =>
    unfold retryParts at h
    cases h with
    | poll cancelled hflag h =>
      cases cancelled with
      | true =>
        obtain ⟨rfl, rfl⟩ := Evaluation.trace_done_iff.1 h
        exact .cancelled hflag
      | false =>
        obtain ⟨before, after, outcome, rfl, hrow, hafter⟩ := Evaluation.trace_bind h
        have hselect := selectRun_of_trace hrow
        cases outcome with
        | ok rows =>
          obtain ⟨later, hlater, rfl⟩ := Evaluation.trace_map hafter
          exact .given hflag hselect (ih hlater)
        | error e =>
          cases hhides : d.hides e with
          | true =>
            simp only [hhides, if_true] at hafter
            obtain ⟨later, hlater, rfl⟩ := Evaluation.trace_map hafter
            exact .hidden hflag hselect hhides (ih hlater)
          | false =>
            simp only [hhides, Bool.false_eq_true, if_false] at hafter
            obtain ⟨rfl, rfl⟩ := Evaluation.trace_done_iff.1 hafter
            rw [List.append_nil]
            exact .failed hflag hselect hhides

/-- Several rows whose text is known are evaluated by one call and what its answer leads to. -/
theorem evaluateBatch_of_togetherText {config : Config} {first second : Row} {rest : List Row}
    (hindex : config.rowIndex ∉ d.declared) {text : String}
    (htext : togetherText d config (first :: second :: rest) = .ok text) :
    evaluateBatch config d (first :: second :: rest) =
      .select (togetherCall d config text) fun
        | .ok solutions => .done (.ok (joinAnswer d (first :: second :: rest)
          (relevantNames (first :: second :: rest) d.declared) config.rowIndex solutions))
        | .error e =>
          if e.isRecoverable then
            (retry d (togetherQuery d config (first :: second :: rest)) config.rowIndex
              (first :: second :: rest)).map fun rows => .ok (rows.silentIf d.silent)
          else .done (recover d (first :: second :: rest) e) := by
  have htext' : batchText (d.render ((d.projection first.nameSet).insert config.rowIndex))
      (first :: second :: rest) (relevantNames (first :: second :: rest) d.declared)
      config.rowIndex = .ok text := htext
  rw [evaluateBatch_several hindex]
  simp only [evaluateTogether, htext']
  rfl

/-- Several rows whose text is not known fail. -/
theorem evaluateBatch_of_togetherText_error {config : Config} {first second : Row}
    {rest : List Row} (hindex : config.rowIndex ∉ d.declared) {e : FederationError}
    (htext : togetherText d config (first :: second :: rest) = .error e) :
    evaluateBatch config d (first :: second :: rest) =
      .done (recover d (first :: second :: rest) e) := by
  have htext' : batchText (d.render ((d.projection first.nameSet).insert config.rowIndex))
      (first :: second :: rest) (relevantNames (first :: second :: rest) d.declared)
      config.rowIndex = .error e := htext
  rw [evaluateBatch_several hindex]
  simp only [evaluateTogether, htext']

/-- **Every transcript of a batch is of one of the kinds above.**

**Proof sketch.** The cases are those of the definition: the number of rows, the text for all of
them, and the answer to it. -/
theorem batchRun_of_trace {config : Config} {batch : List Row} {outcome : Outcome RowSequence}
    (h : (evaluateBatch config d batch).Trace flag log outcome) :
    BatchRun flag d config batch log outcome := by
  rcases batch with _ | ⟨first, _ | ⟨second, rest⟩⟩
  · obtain ⟨rfl, rfl⟩ := Evaluation.trace_done_iff.1 h
    exact .empty
  · by_cases hindex : config.rowIndex ∈ d.declared
    · rw [evaluateBatch_of_reserved hindex] at h
      obtain ⟨rfl, rfl⟩ := Evaluation.trace_done_iff.1 h
      exact .reserved hindex
    · rw [evaluateBatch_single hindex] at h
      obtain ⟨outcome, hrow, rfl⟩ := Evaluation.trace_map h
      have hselect := selectRun_of_trace hrow
      cases outcome with
      | ok rows => exact .single hindex hselect
      | error e => exact .singleFailed hindex hselect
  · by_cases hindex : config.rowIndex ∈ d.declared
    · rw [evaluateBatch_of_reserved hindex] at h
      obtain ⟨rfl, rfl⟩ := Evaluation.trace_done_iff.1 h
      exact .reserved hindex
    · cases htext : togetherText d config (first :: second :: rest) with
      | error e =>
        rw [evaluateBatch_of_togetherText_error hindex htext] at h
        obtain ⟨rfl, rfl⟩ := Evaluation.trace_done_iff.1 h
        exact .unsendable hindex htext
      | ok text =>
        rw [evaluateBatch_of_togetherText hindex htext] at h
        cases h with
        | select answer h =>
          cases answer with
          | ok solutions =>
            obtain ⟨rfl, rfl⟩ := Evaluation.trace_done_iff.1 h
            exact .answered hindex htext solutions
          | error e =>
            cases hrecoverable : e.isRecoverable with
            | false =>
              simp only [hrecoverable, Bool.false_eq_true, if_false] at h
              obtain ⟨rfl, rfl⟩ := Evaluation.trace_done_iff.1 h
              exact .failed hindex htext hrecoverable
            | true =>
              simp only [hrecoverable, if_true, retry] at h
              obtain ⟨rows, hrows, rfl⟩ := Evaluation.trace_map h
              obtain ⟨parts, hparts, rfl⟩ := Evaluation.trace_map hrows
              exact .retried hindex htext hrecoverable (retryRun_of_trace hparts)

end

end ServiceClause
