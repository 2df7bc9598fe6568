import ServiceClause.Proofs.Batch.Runs
import ServiceClause.Proofs.Query.Sendable
import ServiceClause.Proofs.Sequences
import ServiceClause.Proofs.Stream.Blocks

/-!
# Batches of a silent clause

A silent clause hides every failure but a malformed query. So the only errors among what a batch of
it gives are malformed queries and the reserved row index; a call that fails with a malformed query
shows up; and where every call fails in another way, the batch gives its own rows.

## Main statements

* `ServiceClause.errors_of_batchRun` — the errors that a batch gives.
* `ServiceClause.malformed_of_batchRun` — a malformed query shows up.
* `ServiceClause.items_of_batchRun` — where every call fails, the rows are left as they are.
-/

set_option autoImplicit false

namespace ServiceClause

/-! ## Hidden errors -/

section

variable {flag : Bool → Prop} {d : Descriptor} {log : List Exchange} {e : FederationError}

theorem hides_of_silent (hsilent : d.silent = true) (e : FederationError) :
    d.hides e = !e.isMalformed := by
  rw [Descriptor.hides, hsilent, Bool.true_and]

/-- What a silent clause gives for a batch that fails with another error than a malformed query. -/
theorem outcomeItems_recover (hsilent : d.silent = true) (batch : List Row)
    (he : e.isMalformed = false) : outcomeItems (recover d batch e) = batch.map .ok := by
  have hhides : d.hides e = true := by rw [hides_of_silent hsilent, he, Bool.not_false]
  rw [recover, if_pos hhides]
  exact RowSequence.toList_ofRows batch

theorem outcomeItems_recover_malformed (hsilent : d.silent = true) (batch : List Row)
    (he : e.isMalformed = true) : outcomeItems (recover d batch e) = [.error e] := by
  have hhides : ¬ d.hides e = true := by
    rw [hides_of_silent hsilent, he, Bool.not_true]
    exact Bool.false_ne_true
  rw [recover, if_neg hhides]
  rfl

/-- The errors of a batch that a silent clause recovers are malformed queries. -/
theorem isMalformed_of_mem_recover (hsilent : d.silent = true) {batch : List Row}
    {f : FederationError} (h : .error f ∈ outcomeItems (recover d batch e)) :
    f.isMalformed = true := by
  cases he : e.isMalformed with
  | true =>
    rw [outcomeItems_recover_malformed hsilent batch he, List.mem_singleton] at h
    obtain rfl := Except.error.inj h
    exact he
  | false =>
    rw [outcomeItems_recover hsilent batch he] at h
    simp at h

theorem isMalformed_of_mem_silenced (hsilent : d.silent = true) {rows : RowSequence}
    (h : .error e ∈ (rows.silentIf d.silent).toList) : e.isMalformed = true := by
  rw [hsilent, RowSequence.toList_silentIf, if_pos rfl] at h
  exact isMalformed_of_mem_silentItems h

/-! ## Rows one by one -/

/-- The errors of rows tried one by one are malformed queries. -/
theorem errors_of_retryRun (hsilent : d.silent = true) {query : String} {rowIndex : Name}
    {rows : List Row} {parts : List RowSequence}
    (h : RetryRun flag d query rowIndex rows log parts)
    (he : .error e ∈ (RowSequence.chain parts).toList) : e.isMalformed = true := by
  rw [RowSequence.toList_chain] at he
  induction h with
  | finished => simp at he
  | cancelled hflag => simp at he
  | given hflag hrow hrest ih =>
    rw [List.flatMap_cons] at he
    rcases List.mem_append.1 he with he | he
    · exact isMalformed_of_mem_silenced hsilent he
    · exact ih he
  | hidden hflag hrow hhides hrest ih =>
    rw [List.flatMap_cons, RowSequence.toList_one] at he
    rcases List.mem_append.1 he with he | he
    · simp at he
    · exact ih he
  | failed hflag hrow hhides =>
    simp only [List.flatMap_cons, RowSequence.toList_failing, List.flatMap_nil, List.append_nil,
      List.mem_singleton] at he
    obtain rfl := Except.error.inj he
    rw [hides_of_silent hsilent] at hhides
    simpa using hhides

/-- A call of one row that fails is the error of the row. -/
theorem outcome_of_selectRun {query : String} {row : Row} {base? : Option String}
    {declared : NameSet} {outcome : Outcome RowSequence} {x : Exchange}
    (h : SelectRun query row base? declared log outcome) (hx : x ∈ log)
    (herror : x.error? = some e) : outcome = .error e := by
  cases h with
  | unbindable hbind => simp at hx
  | sent hbind answer =>
    obtain rfl := List.mem_singleton.1 hx
    cases answer with
    | ok solutions => simp [Exchange.error?] at herror
    | error f =>
      obtain rfl := Option.some.inj herror
      rfl

/-- A call of rows tried one by one that fails with a malformed query shows up. -/
theorem malformed_of_retryRun (hsilent : d.silent = true) {query : String} {rowIndex : Name}
    {rows : List Row} {parts : List RowSequence}
    (h : RetryRun flag d query rowIndex rows log parts) {x : Exchange} (hx : x ∈ log)
    (herror : x.error? = some e) (he : e.isMalformed = true) :
    .error e ∈ (RowSequence.chain parts).toList := by
  rw [RowSequence.toList_chain]
  induction h with
  | finished => simp at hx
  | cancelled hflag => simp at hx
  | given hflag hrow hrest ih =>
    rw [List.flatMap_cons]
    rcases List.mem_append.1 hx with hx | hx
    · have houtcome := outcome_of_selectRun hrow hx herror
      simp at houtcome
    · exact List.mem_append_right _ (ih hx)
  | hidden hflag hrow hhides hrest ih =>
    rw [List.flatMap_cons]
    rcases List.mem_append.1 hx with hx | hx
    · obtain rfl := Except.error.inj (outcome_of_selectRun hrow hx herror)
      rw [hides_of_silent hsilent, he] at hhides
      simp at hhides
    · exact List.mem_append_right _ (ih hx)
  | failed hflag hrow hhides =>
    obtain rfl := Except.error.inj (outcome_of_selectRun hrow hx herror)
    simp

/-- Where every call fails, so does the query for one row. -/
theorem error_of_selectRun {query : String} {row : Row} {base? : Option String}
    {declared : NameSet} {outcome : Outcome RowSequence} (hquery : HasPattern query)
    (h : SelectRun query row base? declared log outcome)
    (hfail : ∀ x ∈ log, ∃ e, x.error? = some e ∧ e.isMalformed = false) :
    ∃ e, outcome = .error e ∧ e.isMalformed = false := by
  cases h with
  | unbindable hbind => exact absurd hbind (preBind_ne_error hquery row declared _)
  | sent hbind answer =>
    obtain ⟨e, herror, he⟩ := hfail _ List.mem_cons_self
    cases answer with
    | ok solutions => simp [Exchange.error?] at herror
    | error f =>
      obtain rfl := Option.some.inj herror
      exact ⟨f, rfl, he⟩

/-- Where every call fails, rows tried one by one are left as they are. -/
theorem items_of_retryRun (hsilent : d.silent = true) {query : String} {rowIndex : Name}
    {rows : List Row} {parts : List RowSequence} (hflag : ¬ flag true) (hquery : HasPattern query)
    (h : RetryRun flag d query rowIndex rows log parts)
    (hfail : ∀ x ∈ log, ∃ e, x.error? = some e ∧ e.isMalformed = false) :
    (RowSequence.chain parts).toList = rows.map .ok := by
  rw [RowSequence.toList_chain]
  induction h with
  | finished => rfl
  | cancelled hcancelled => exact absurd hcancelled hflag
  | given _ hrow hrest ih =>
    have hlog := fun x hx => hfail x (List.mem_append_left _ hx)
    obtain ⟨e, houtcome, _⟩ := error_of_selectRun hquery hrow hlog
    simp at houtcome
  | hidden _ hrow hhides hrest ih =>
    have hlater := fun x hx => hfail x (List.mem_append_right _ hx)
    rw [List.flatMap_cons, RowSequence.toList_one, ih hlater, List.map_cons]
    rfl
  | failed _ hrow hhides =>
    obtain ⟨e, houtcome, he⟩ := error_of_selectRun hquery hrow hfail
    obtain rfl := Except.error.inj houtcome
    rw [hides_of_silent hsilent, he] at hhides
    simp at hhides

/-! ## Batches -/

variable {config : Config} {batch : List Row} {outcome : Outcome RowSequence}

/-- **The errors of a batch.** The only errors that a batch of a silent clause gives are malformed
queries and the reserved row index, and the latter only without any call.

**Proof sketch.** By the kinds of transcripts (`BatchRun`). Answered rows are silenced in the end,
and what fails is recovered. -/
theorem errors_of_batchRun (hsilent : d.silent = true)
    (h : BatchRun flag d config batch log outcome) (he : .error e ∈ outcomeItems outcome) :
    e.isMalformed = true ∨ log = [] ∧ config.rowIndex ∈ d.declared ∧
      e = .reservedRowIndex d.endpoint config.rowIndex := by
  cases h with
  | empty => simp [outcomeItems] at he
  | reserved hindex =>
    obtain rfl := Except.error.inj (List.mem_singleton.1 he)
    exact .inr ⟨rfl, hindex, rfl⟩
  | single hindex hrow => exact .inl (isMalformed_of_mem_silenced hsilent he)
  | singleFailed hindex hrow => exact .inl (isMalformed_of_mem_recover hsilent he)
  | unsendable hindex htext => exact .inl (isMalformed_of_mem_recover hsilent he)
  | answered hindex htext solutions => exact .inl (isMalformed_of_mem_silenced hsilent he)
  | failed hindex htext hrecoverable => exact .inl (isMalformed_of_mem_recover hsilent he)
  | retried hindex htext hrecoverable hretry =>
    exact .inl (isMalformed_of_mem_silenced hsilent he)

/-- **A malformed query shows up.** If a call of a batch fails with a malformed query, then the
first error that the batch gives is a malformed query.

**Proof sketch.** By the kinds of transcripts. An error that lets the rows be tried one by one is no
malformed query, so then the call is one of theirs (`malformed_of_retryRun`). -/
theorem malformed_of_batchRun (hsilent : d.silent = true)
    (h : BatchRun flag d config batch log outcome) {x : Exchange} (hx : x ∈ log)
    (herror : x.error? = some e) (he : e.isMalformed = true) :
    ∃ f, firstError? (outcomeItems outcome) = some f ∧ f.isMalformed = true := by
  have hmem : .error e ∈ outcomeItems outcome := by
    cases h with
    | empty => simp at hx
    | reserved hindex => simp at hx
    | single hindex hrow =>
      have houtcome := outcome_of_selectRun hrow hx herror
      simp at houtcome
    | singleFailed hindex hrow =>
      obtain rfl := Except.error.inj (outcome_of_selectRun hrow hx herror)
      rw [outcomeItems_recover_malformed hsilent _ he]
      exact List.mem_cons_self
    | unsendable hindex htext => simp at hx
    | answered hindex htext solutions =>
      obtain rfl := List.mem_singleton.1 hx
      simp [Exchange.error?] at herror
    | failed hindex htext hrecoverable =>
      obtain rfl := List.mem_singleton.1 hx
      obtain rfl := Option.some.inj herror
      rw [outcomeItems_recover_malformed hsilent _ he]
      exact List.mem_cons_self
    | retried hindex htext hrecoverable hretry =>
      rcases List.mem_cons.1 hx with rfl | hx
      · obtain rfl := Option.some.inj herror
        rw [FederationError.isMalformed_eq_false_of_isRecoverable hrecoverable] at he
        simp at he
      · have hrows := malformed_of_retryRun hsilent hretry hx herror he
        have herrors := fun e he => errors_of_retryRun (e := e) hsilent hretry he
        rw [outcomeItems, hsilent, RowSequence.toList_silentIf, if_pos rfl,
          silentItems_of_malformed herrors]
        exact hrows
  obtain ⟨f, hf, hfmem⟩ := exists_firstError hmem
  refine ⟨f, hf, ?_⟩
  rcases errors_of_batchRun hsilent h hfmem with hmalformed | ⟨rfl, _⟩
  · exact hmalformed
  · simp at hx

/-- **Where every call fails, the rows are left as they are.**

**Proof sketch.** By the kinds of transcripts. The only error before any call is that of a blank
node (`batchText_eq_error`), which is hidden like the others. -/
theorem items_of_batchRun (hsilent : d.silent = true) (hflag : ¬ flag true)
    (hindex : config.rowIndex ∉ d.declared) (hpatterns : d.HasPatterns config.rowIndex)
    (h : BatchRun flag d config batch log outcome)
    (hfail : ∀ x ∈ log, ∃ e, x.error? = some e ∧ e.isMalformed = false) :
    outcomeItems outcome = batch.map .ok := by
  cases h with
  | empty => exact RowSequence.toList_empty
  | reserved hdeclared => exact absurd hdeclared hindex
  | single _ hrow =>
    obtain ⟨e, houtcome, _⟩ := error_of_selectRun (hpatterns _).1 hrow hfail
    simp at houtcome
  | singleFailed _ hrow =>
    obtain ⟨e, houtcome, he⟩ := error_of_selectRun (hpatterns _).1 hrow hfail
    obtain rfl := Except.error.inj houtcome
    exact outcomeItems_recover hsilent _ he
  | unsendable _ htext =>
    obtain ⟨_, _, _, _, label, _, rfl⟩ := batchText_eq_error htext
    exact outcomeItems_recover hsilent _ rfl
  | answered _ htext solutions =>
    obtain ⟨e, herror, _⟩ := hfail _ List.mem_cons_self
    simp [Exchange.error?] at herror
  | failed _ htext hrecoverable =>
    obtain ⟨e, herror, he⟩ := hfail _ List.mem_cons_self
    obtain rfl := Option.some.inj herror
    exact outcomeItems_recover hsilent _ he
  | retried _ htext hrecoverable hretry =>
    have hlog := fun x hx => hfail x (List.mem_cons_of_mem _ hx)
    have hrows := items_of_retryRun hsilent hflag (hpatterns _).2 hretry hlog
    rw [outcomeItems, hsilent, RowSequence.toList_silentIf, if_pos rfl, hrows, silentItems_rows]

end

end ServiceClause
