import ServiceClause.Proofs.Batch.Silencing
import ServiceClause.Proofs.Stream.Silent

/-!
# Failures that reach the consumer

A clause does not hide every failure. If it is not silent, any call that fails for good and any
solution that is not understood becomes an error of its batch; if it is silent, a malformed query
still does. Wherever that happens in the course of a stream, the stream ends with an error.

## Main definitions

* `ServiceClause.Exchange.FailsFor` — an exchange with a failure that a clause does not hide.

## Main statements

* `ServiceClause.error_of_batchRun` — such a failure is an error of its batch.
* `ServiceClause.error_of_streamRun` — and the stream delivers an error.
* `ServiceClause.Dispatch.error_of_failing_block` — a block with an error fails the whole stream.
* `ServiceClause.Dispatch.exists_failing_block` — nothing else does.
-/

set_option autoImplicit false

namespace ServiceClause

/-- Whether an exchange has a failure that a clause does not hide. An answer that fails for several
rows together is not one if the rows are then tried one by one. -/
inductive Exchange.FailsFor (d : Descriptor) : Exchange → Prop where
  /-- The query fails, and there is no second attempt. -/
  | answered {call : Call} {e : FederationError} (hhides : d.hides e = false)
    (hlast : call.budget? = none ∨ e.isRecoverable = false) : FailsFor d (.rows call (.error e))
  /-- One of the solutions is not understood. -/
  | decoded {call : Call} {solutions : Solutions} {e : FederationError}
    (hsilent : d.silent = false) (he : .error e ∈ solutions.items) :
    FailsFor d (.rows call (.ok solutions))

/-! ## Batches of a clause that is not silent -/

section

variable {flag : Bool → Prop} {d : Descriptor} {config : Config} {log : List Exchange}
  {x : Exchange}

/-- A solution that is not understood is an error of the joined answer. -/
theorem error_mem_joinAnswer (hsilent : d.silent = false) (batch : List Row) (relevant : List Name)
    (rowIndex : Name) {solutions : Solutions} {e : FederationError}
    (he : .error e ∈ solutions.items) :
    .error e ∈ (joinAnswer d batch relevant rowIndex solutions).toList := by
  have hitems : solutions.toSequence.toList = solutions.items :=
    RowSequence.toList_ofItems solutions.items
  rw [joinAnswer, hsilent, RowSequence.toList_silentIf, if_neg Bool.false_ne_true]
  split
  · rw [RowSequence.toList_cross, hitems]
    exact error_mem_crossItems he
  · rw [RowSequence.toList_join, hitems]
    exact error_mem_joinItems he

/-- A query for one row that fails, or one of whose solutions is not understood, gives an error. -/
theorem error_of_selectRun_rows {query : String} {row : Row} {base? : Option String}
    {declared : NameSet} {rows : RowSequence}
    (h : SelectRun query row base? declared log (.ok rows)) (hx : x ∈ log) (hfails : x.FailsFor d) :
    ∃ e, .error e ∈ rows.toList := by
  generalize houtcome : (Except.ok rows : Outcome RowSequence) = outcome at h
  cases h with
  | unbindable hbind => simp at hx
  | sent hbind answer =>
    obtain rfl := List.mem_singleton.1 hx
    cases hfails with
    | answered hhides hlast => cases houtcome
    | @decoded call solutions e hsilent he =>
      obtain rfl := Except.ok.inj houtcome
      refine ⟨e, ?_⟩
      rw [RowSequence.toList_insert]
      apply error_mem_map
      rwa [Solutions.toSequence, RowSequence.toList_ofItems]

theorem error_of_retryRun (hsilent : d.silent = false) {query : String} {rowIndex : Name}
    {rows : List Row} {parts : List RowSequence}
    (h : RetryRun flag d query rowIndex rows log parts) (hx : x ∈ log) (hfails : x.FailsFor d) :
    ∃ e, .error e ∈ (RowSequence.chain parts).toList := by
  rw [RowSequence.toList_chain]
  induction h with
  | finished => simp at hx
  | cancelled hflag => simp at hx
  | given hflag hrow hrest ih =>
    rw [List.flatMap_cons]
    rcases List.mem_append.1 hx with hx | hx
    · obtain ⟨e, he⟩ := error_of_selectRun_rows hrow hx hfails
      refine ⟨e, List.mem_append_left _ ?_⟩
      rw [hsilent, RowSequence.toList_silentIf, if_neg Bool.false_ne_true, RowSequence.toList_strip]
      exact error_mem_map he
    · obtain ⟨e, he⟩ := ih hx
      exact ⟨e, List.mem_append_right _ he⟩
  | hidden hflag hrow hhides hrest ih =>
    rw [hides_of_not_silent hsilent] at hhides
    cases hhides
  | @failed row rest log e hflag hrow hhides =>
    refine ⟨e, ?_⟩
    simp

theorem error_mem_recover (hsilent : d.silent = false) (batch : List Row) (e : FederationError) :
    .error e ∈ outcomeItems (recover d batch e) := by
  rw [recover, hides_of_not_silent hsilent]
  exact List.mem_singleton_self _

theorem error_of_batchRun_not_silent (hsilent : d.silent = false) {batch : List Row}
    {outcome : Outcome RowSequence} (h : BatchRun flag d config batch log outcome) (hx : x ∈ log)
    (hfails : x.FailsFor d) : ∃ e, .error e ∈ outcomeItems outcome := by
  cases h with
  | empty => simp at hx
  | reserved hindex => simp at hx
  | single hindex hrow =>
    obtain ⟨e, he⟩ := error_of_selectRun_rows hrow hx hfails
    refine ⟨e, ?_⟩
    rw [outcomeItems, hsilent, RowSequence.toList_silentIf, if_neg Bool.false_ne_true]
    exact he
  | singleFailed hindex hrow => exact ⟨_, error_mem_recover hsilent _ _⟩
  | unsendable hindex htext => exact ⟨_, error_mem_recover hsilent _ _⟩
  | failed hindex htext hrecoverable => exact ⟨_, error_mem_recover hsilent _ _⟩
  | answered hindex htext solutions =>
    obtain rfl := List.mem_singleton.1 hx
    cases hfails with
    | decoded _ he => exact ⟨_, error_mem_joinAnswer hsilent _ _ _ he⟩
  | retried hindex htext hrecoverable hretry =>
    rcases List.mem_cons.1 hx with rfl | hx
    · -- The rows get a second attempt after this failure.
      cases hfails with
      | answered hhides hlast =>
        rcases hlast with hbudget | hlast
        · cases hbudget
        · rw [hrecoverable] at hlast
          cases hlast
    · obtain ⟨e, he⟩ := error_of_retryRun hsilent hretry hx hfails
      refine ⟨e, ?_⟩
      rw [outcomeItems, hsilent, RowSequence.toList_silentIf, if_neg Bool.false_ne_true]
      exact he

/-! ## Batches and streams -/

/-- **A failure that the clause does not hide is an error of its batch.**

**Proof sketch.** By the kinds of transcripts (`BatchRun`). What a silent clause does not hide is a
malformed query, and of that it is known (`malformed_of_batchRun`). -/
theorem error_of_batchRun {batch : List Row} {outcome : Outcome RowSequence}
    (h : BatchRun flag d config batch log outcome) (hx : x ∈ log) (hfails : x.FailsFor d) :
    ∃ e, firstError? (outcomeItems outcome) = some e := by
  cases hsilent : d.silent with
  | false =>
    obtain ⟨e, he⟩ := error_of_batchRun_not_silent hsilent h hx hfails
    obtain ⟨f, hf, -⟩ := exists_firstError he
    exact ⟨f, hf⟩
  | true =>
    cases hfails with
    | answered hhides hlast =>
      rw [hides_of_silent hsilent, Bool.not_eq_false'] at hhides
      obtain ⟨f, hf, -⟩ := malformed_of_batchRun hsilent h hx rfl hhides
      exact ⟨f, hf⟩
    | decoded hnot he =>
      rw [hsilent] at hnot
      cases hnot

/-- A failure that the clause does not hide ends the stream with an error. -/
theorem error_of_streamRun {ending items : List Item} {blocks : List (List Row)}
    (h : StreamRun flag d config ending blocks log items) (hx : x ∈ log) (hfails : x.FailsFor d) :
    ∃ e, firstError? items = some e := by
  induction h with
  | finished => simp at hx
  | stopped hrun hfirst =>
    rw [firstError?_throughError]
    exact ⟨_, hfirst⟩
  | passed hrun hrows hrest ih =>
    rcases List.mem_append.1 hx with hx | hx
    · obtain ⟨e, he⟩ := error_of_batchRun hrun hx hfails
      rw [hrows] at he
      cases he
    · obtain ⟨e, he⟩ := ih hx
      cases hnone : firstError? (_ ++ _) with
      | some f => exact ⟨f, rfl⟩
      | none =>
        rw [(firstError?_append_eq_none.1 hnone).2] at he
        cases he

end

namespace Dispatch

variable {σ : Type}

/-- What is delivered has an error if the first block gives one, or else if what follows has one. -/
theorem firstError?_outcomeThen (next : σ → List Item × σ) (outcome : Outcome RowSequence) (w : σ) :
    firstError? (outcomeThen next (outcome, w)).1 =
      (firstError? (outcomeItems outcome)).or (firstError? (next w).1) := by
  rw [outcomeThen_eq_resultsThen, resultsThen]
  cases herror : firstError? (outcomeItems outcome) with
  | some e => simp [firstError?_throughError, herror]
  | none =>
    show firstError? (outcomeItems outcome ++ (next w).1) = firstError? (next w).1
    rw [eq_map_of_firstError herror, firstError?_append]

/-- After a block without an error the service goes on with the next ones. -/
theorem world_deliver_cons (d : Dispatch σ) (ending : List Item) {block : List Row}
    {outcome : Outcome RowSequence} {w w' : σ}
    (hrun : (d.evaluation block).runToEnd d.service w = (outcome, w'))
    (hrows : firstError? (outcomeItems outcome) = none) (rest : List (List Row)) :
    (d.deliver ending (block :: rest) w).2 = (d.deliver ending rest w').2 := by
  rw [deliver_cons, hrun, outcomeThen_eq_resultsThen, resultsThen, hrows]
  rfl

/-- A block that gives an error fails the whole stream, whatever the blocks before it have given.

**Proof sketch.** Induction on the blocks before it. If one of them gives an error, that error fails
the stream already. -/
theorem error_of_failing_block (d : Dispatch σ) {before after : List (List Row)} {block : List Row}
    {w : σ} {e : FederationError}
    (h : .error e ∈
      outcomeItems ((d.evaluation block).runToEnd d.service (d.deliver [] before w).2).1) :
    ∃ f, firstError? (d.deliver [] (before ++ block :: after) w).1 = some f := by
  induction before generalizing w with
  | nil =>
    obtain ⟨f, hf, -⟩ := exists_firstError h
    rw [deliver] at hf
    rw [List.nil_append, deliver_cons, firstError?_outcomeThen, hf]
    exact ⟨f, rfl⟩
  | cons first before ih =>
    cases hrun : (d.evaluation first).runToEnd d.service w with
    | mk outcome w' =>
      rw [List.cons_append, deliver_cons, hrun, firstError?_outcomeThen]
      cases hfirst : firstError? (outcomeItems outcome) with
      | some f => exact ⟨f, rfl⟩
      | none =>
        rw [d.world_deliver_cons [] hrun hfirst] at h
        exact ih h

/-- A stream fails only by a block that gives an error. -/
theorem exists_failing_block (d : Dispatch σ) {blocks : List (List Row)} {w : σ}
    {e : FederationError} (h : firstError? (d.deliver [] blocks w).1 = some e) :
    ∃ before block after, blocks = before ++ block :: after ∧ .error e ∈
      outcomeItems ((d.evaluation block).runToEnd d.service (d.deliver [] before w).2).1 := by
  induction blocks generalizing w with
  | nil =>
    rw [deliver] at h
    cases h
  | cons first rest ih =>
    cases hrun : (d.evaluation first).runToEnd d.service w with
    | mk outcome w' =>
      rw [deliver_cons, hrun, firstError?_outcomeThen] at h
      cases hfirst : firstError? (outcomeItems outcome) with
      | some f =>
        rw [hfirst] at h
        obtain rfl := Option.some.inj h
        refine ⟨[], first, rest, rfl, ?_⟩
        rw [deliver, hrun]
        exact mem_of_firstError hfirst
      | none =>
        rw [hfirst] at h
        obtain ⟨before, block, after, rfl, hblock⟩ := ih h
        refine ⟨first :: before, block, after, rfl, ?_⟩
        rw [d.world_deliver_cons [] hrun hfirst]
        exact hblock

/-- A source of rows is evaluated block by block, and nothing comes after the last one. -/
theorem reference_rows (d : Dispatch σ) (rows : List Row) (w : σ) :
    d.reference (rows.map .ok) w = d.deliver [] (batches d.config.blockSize rows) w := by
  have hrows := rowsBeforeError_append rows []
  have herror := firstError?_append rows []
  simp only [List.append_nil, rowsBeforeError, firstError?] at hrows herror
  rw [reference, hrows, herror]

end Dispatch

end ServiceClause
