import ServiceClause.Proofs.Batch.InputBindings

/-!
# Where the row index goes

The query for several rows selects the row index besides the variables of the clause, so the answers
may bind it. No input row does. A row that the batch gives binds it in one case only: no variable of
the clause is bound by the rows, the query is answered, and the answer itself binds the row index.
Every row is then extended by the whole answer, from which the row index is not removed. Wherever
else an answer is used, it is.

## Main statements

* `ServiceClause.evaluateBatch_binds_rowIndex_iff` — when a row of the batch binds the row index.
* `ServiceClause.rowIndex_of_answer` — a batch that gives such a row.
-/

set_option autoImplicit false

namespace ServiceClause

/-! ## The ways of an answer -/

section

variable {config : Config} {d : Descriptor} {flag : Bool → Prop} {log : List Exchange} {row : Row}

/-- A row that extends one without the row index binds it where the other one does. -/
theorem binds_merge_iff {input remote : Row} {rowIndex : Name} (h : rowIndex ∉ input.names) :
    rowIndex ∈ (input.merge remote).names ↔ rowIndex ∈ remote.names := by
  rw [Row.mem_names_merge, or_iff_left h]

/-- A row that is tried alone never gives the row index, since it is removed from the answers. -/
theorem notMem_of_retryRun {query : String} {rowIndex : Name} {rows : List Row}
    {parts : List RowSequence} (h : RetryRun flag d query rowIndex rows log parts)
    (hinputs : ∀ input ∈ rows, rowIndex ∉ input.names)
    (hrow : .ok row ∈ (RowSequence.chain parts).toList) : rowIndex ∉ row.names := by
  rw [RowSequence.toList_chain] at hrow
  induction h with
  | finished => simp at hrow
  | cancelled hflag => simp at hrow
  | given hflag hselect hrest ih =>
    rw [List.flatMap_cons] at hrow
    rcases List.mem_append.1 hrow with hfirst | hlater
    · have hstripped := mem_of_mem_silentIf hfirst
      rw [RowSequence.toList_strip] at hstripped
      obtain ⟨whole, -, rfl⟩ := exists_of_mem_map hstripped
      exact fun hmem => (Row.mem_names_erase.1 hmem).1 rfl
    · exact ih (fun input hinput => hinputs input (List.mem_cons_of_mem _ hinput)) hlater
  | hidden hflag hselect hhides hrest ih =>
    rw [List.flatMap_cons, RowSequence.toList_one] at hrow
    rcases List.mem_append.1 hrow with hfirst | hlater
    · obtain rfl := Except.ok.inj (List.mem_singleton.1 hfirst)
      exact hinputs row List.mem_cons_self
    · exact ih (fun input hinput => hinputs input (List.mem_cons_of_mem _ hinput)) hlater
  | failed hflag hselect hhides => simp at hrow

/-- A row that binds the row index extends an input row by an answer that binds it, to a batch whose
rows bind no variable of the clause.

**Proof sketch.** By the kinds of transcripts. A row that is recovered is an input row, and one that
is tried alone never binds the row index (`notMem_of_retryRun`). So the batch is answered. If the
answers are joined by the row index, it is removed from them. -/
theorem answered_of_binds {batch : List Row} {outcome : Outcome RowSequence}
    (h : BatchRun flag d config batch log outcome) (hseveral : 2 ≤ batch.length)
    (hinputs : ∀ input ∈ batch, config.rowIndex ∉ input.names)
    (hrow : .ok row ∈ outcomeItems outcome) (hbinds : config.rowIndex ∈ row.names) :
    relevantNames batch d.declared = [] ∧
      ∃ call solutions, log = [.rows call (.ok solutions)] ∧
        ∃ remote, .ok remote ∈ solutions.items ∧ config.rowIndex ∈ remote.names ∧
          ∃ input ∈ batch, row = input.merge remote := by
  cases h with
  | empty => simp at hseveral
  | reserved hindex => simp [outcomeItems] at hrow
  | single hindex hselect => simp at hseveral
  | singleFailed hindex hselect => simp at hseveral
  | unsendable hindex htext => exact absurd hbinds (hinputs row (mem_of_mem_recover hrow))
  | answered hindex htext solutions =>
    obtain ⟨remote, hremote, input, hinput, hjoined⟩ := exists_of_mem_joinAnswer hrow
    rcases hjoined with ⟨hrelevant, rfl⟩ | rfl
    · have hindexed := (binds_merge_iff (hinputs input hinput)).1 hbinds
      exact ⟨hrelevant, _, solutions, rfl, remote, hremote, hindexed, input, hinput, rfl⟩
    · have hindexed := (binds_merge_iff (hinputs input hinput)).1 hbinds
      exact absurd rfl (Row.mem_names_erase.1 hindexed).1
  | failed hindex htext hrecoverable =>
    exact absurd hbinds (hinputs row (mem_of_mem_recover hrow))
  | retried hindex htext hrecoverable hretry =>
    exact absurd hbinds (notMem_of_retryRun hretry hinputs (mem_of_mem_silentIf hrow))

end

/-! ## Main result -/

/-- **The row index reaches the consumer in one case only.** Let none of several rows bind the row
index. Whatever the service answers, a row that the batch gives binds the row index exactly if the
rows bind no variable of the clause, the query for all of them is answered, and the row extends one
of them by a remote row that binds the row index. So none does that is joined by its row index, or
tried alone, or kept because the clause is silent. (A clause that declares the row index gives no
rows.)

**Proof sketch.** Let the service remember its exchanges; they are a transcript of the batch
(`Evaluation.trace_runToEnd`), of which this is known (`answered_of_binds`). -/
theorem evaluateBatch_binds_rowIndex_iff {σ : Type} (config : Config) (d : Descriptor)
    (batch : List Row) (service : Service σ) (w : σ) (hseveral : 2 ≤ batch.length)
    (hinputs : ∀ input ∈ batch, config.rowIndex ∉ input.names) (row : Row)
    (hrow : .ok row ∈ outcomeItems ((evaluateBatch config d batch).runToEnd service w).1) :
    config.rowIndex ∈ row.names ↔
      relevantNames batch d.declared = [] ∧
        ∃ call solutions,
          ((evaluateBatch config d batch).runToEnd service.transcribing (w, [])).2.2 =
            [.rows call (.ok solutions)] ∧
          ∃ remote, .ok remote ∈ solutions.items ∧ config.rowIndex ∈ remote.names ∧
            ∃ input ∈ batch, row = input.merge remote := by
  obtain ⟨htrace, _⟩ := Evaluation.trace_runToEnd service (evaluateBatch config d batch) w
  refine ⟨answered_of_binds (batchRun_of_trace htrace) hseveral hinputs hrow, ?_⟩
  rintro ⟨-, -, -, -, remote, -, hindexed, input, -, rfl⟩
  exact Row.mem_names_merge.2 (.inl hindexed)

/-- A pattern that contains the row index, though the clause does not declare it. -/
def indexClause : Descriptor :=
  patternClause ⟨[], "?__rowIdx <http://example.org/p> ?y"⟩ (NameSet.ofList ["y"])

/-- Two rows that bind no variable of this clause. -/
def unrelatedRows : List Row :=
  [Row.empty.insert "x" (.literal (.plain "a")), Row.empty.insert "x" (.literal (.plain "b"))]

/-- A service that answers with a resource as the row index. -/
def indexingService : Service Unit :=
  scripted (.ok (.ofRows ["__rowIdx", "y"] [(Row.empty.insert "__rowIdx"
    (.iri "http://example.org/s")).insert "y" (.literal (.plain "1"))])) (.ok .empty)

/-- The first row that this batch gives. -/
def indexedRow : Row :=
  ((Row.empty.insert "x" (.literal (.plain "a"))).insert "__rowIdx"
    (.iri "http://example.org/s")).insert "y" (.literal (.plain "1"))

/-- A row that binds the row index extends an input row by an answer that binds it. -/
theorem indexedRow_of_answer :
    relevantNames unrelatedRows indexClause.declared = [] ∧
      ∃ call solutions,
        ((evaluateBatch {} indexClause unrelatedRows).runToEnd indexingService.transcribing
          ((), [])).2.2 = [.rows call (.ok solutions)] ∧
        ∃ remote, .ok remote ∈ solutions.items ∧ ({} : Config).rowIndex ∈ remote.names ∧
          ∃ input ∈ unrelatedRows, indexedRow = input.merge remote :=
  (evaluateBatch_binds_rowIndex_iff {} indexClause unrelatedRows indexingService () (by decide)
    (by decide +kernel) indexedRow (mem_okRows.1 (by decide +kernel))).1 (by decide +kernel)

/-- **The row index reaches the consumer.** The clause does not declare the row index, and no row of
the batch binds it, but a row that the batch gives does. -/
theorem rowIndex_of_answer :
    ({} : Config).rowIndex ∉ indexClause.declared ∧ 2 ≤ unrelatedRows.length ∧
      (∀ input ∈ unrelatedRows, ({} : Config).rowIndex ∉ input.names) ∧
      .ok indexedRow ∈ outcomeItems
        ((evaluateBatch {} indexClause unrelatedRows).runToEnd indexingService ()).1 ∧
      ({} : Config).rowIndex ∈ indexedRow.names :=
  ⟨by decide +kernel, by decide, by decide +kernel, mem_okRows.1 (by decide +kernel),
    by decide +kernel⟩

end ServiceClause
