import ServiceClause.Batch
import ServiceClause.Proofs.Evaluations
import ServiceClause.Proofs.Pulls

/-!
# The retry, row by row

After a failure the rows of a batch are tried one by one. Each row has its turn: its query is sent,
unless the values of the row cannot be written into it, and answered. The retry takes the turns in
the order of the rows, up to one whose error is not hidden, and takes no more once it finds itself
cancelled. What it gives is put together from the turns taken.

## Main definitions

* `ServiceClause.Turn` — the turn of a row.
* `ServiceClause.turns` — the turns of all rows of a batch.
* `ServiceClause.Turn.ends` — whether no more turns are taken after a turn.
* `ServiceClause.Turn.items` — what a turn gives.
* `ServiceClause.taken` — the turns that are taken.

## Main statements

* `ServiceClause.run_retryParts` — the retry takes its turns.
* `ServiceClause.lt_length_taken_iff` — which turns are taken.
* `ServiceClause.retry_takes_turns` — what the retry calls and gives.
-/

set_option autoImplicit false

namespace ServiceClause

/-! ## Turns -/

/-- The turn of a row. -/
structure Turn (σ : Type) where
  /-- The row. -/
  row : Row
  /-- The state of the service and the calls so far, when the turn comes. -/
  before : σ × List Call
  /-- The query for the row, unless its values cannot be written into the query. -/
  call? : Option Call
  /-- The answer to the call, or the error that prevents it. -/
  answer : Outcome Solutions

section

variable {σ : Type} (service : Service σ) (d : Descriptor) (query : String)

/-- The turn of a row, and the state of the service and the calls after it. -/
def turn (row : Row) (s : σ × List Call) : Turn σ × (σ × List Call) :=
  match preBind query row d.declared with
  | .error e => (⟨row, s, none, .error e⟩, s)
  | .ok text =>
    let call : Call := ⟨.select, text, d.base?, none⟩
    (⟨row, s, some call, (service.recording.select call s).1.value⟩,
      (service.recording.select call s).2)

/-- The turns of the rows of a batch, one after the other. -/
def turns : List Row → σ × List Call → List (Turn σ)
  | [], _ => []
  | row :: rest, s => (turn service d query row s).1 :: turns rest (turn service d query row s).2

end

namespace Turn

variable {σ : Type} (d : Descriptor) (rowIndex : Name)

/-- Whether the turn fails with an error that the clause does not hide. -/
def ends (t : Turn σ) : Bool :=
  match t.answer with
  | .ok _ => false
  | .error e => !d.hides e

/-- What the turn gives: the rows of the answer joined to the row, without the row index; the row
itself if it fails and the clause hides the error; or else the error. A silent clause cuts the rows
of the answer at their first error that it hides. -/
def items (t : Turn σ) : List Item :=
  match t.answer with
  | .ok solutions =>
    let joined := solutions.toSequence.toList.map
      (Except.map fun remote => (t.row.merge remote).erase rowIndex)
    if d.silent then silentItems joined else joined
  | .error e => if d.hides e then [.ok t.row] else [.error e]

/-- The sequence that the turn gives. -/
def part (t : Turn σ) : RowSequence :=
  match t.answer with
  | .ok solutions => ((solutions.toSequence.insert t.row).strip rowIndex).silentIf d.silent
  | .error e => if d.hides e then .one t.row else .failing e

end Turn

/-- The turns that are taken: none from the moment on at which the retry finds itself cancelled, and
none after one that ends it. -/
def taken {σ : Type} (cancelled : σ × List Call → Bool) (d : Descriptor) :
    List (Turn σ) → List (Turn σ)
  | [] => []
  | t :: rest =>
    if cancelled t.before then [] else t :: if t.ends d then [] else taken cancelled d rest

/-! ## Taking turns -/

section

variable {σ : Type} (service : Service σ) (cancelled : σ × List Call → Bool) (d : Descriptor)
  (query : String) (rowIndex : Name)

theorem toList_part (t : Turn σ) : (t.part d rowIndex).toList = t.items d rowIndex := by
  unfold Turn.part Turn.items
  cases t.answer with
  | ok solutions =>
    rw [RowSequence.toList_silentIf, RowSequence.toList_strip, RowSequence.toList_insert,
      List.map_map]
    have herase : (Except.map (·.erase rowIndex) ∘ Except.map t.row.merge : Item → Item) =
        Except.map fun remote => (t.row.merge remote).erase rowIndex := by
      funext item
      cases item <;> rfl
    rw [herase]
  | error e =>
    simp only
    split
    · exact RowSequence.toList_one t.row
    · exact RowSequence.toList_failing e

/-- The query for the rows that extend a row is its turn. -/
theorem run_evaluateSelect (row : Row) (s : σ × List Call) :
    (evaluateSelect query row d.base? d.declared).run service.recording cancelled s =
      ((turn service d query row s).1.answer.map fun solutions => solutions.toSequence.insert row,
        (turn service d query row s).2) := by
  unfold evaluateSelect turn
  cases preBind query row d.declared with
  | error e => rfl
  | ok text => rfl

theorem row_turn (row : Row) (s : σ × List Call) :
    (turn service d query row s).1.row = row ∧ (turn service d query row s).1.before = s := by
  unfold turn
  split <;> exact ⟨rfl, rfl⟩

/-- A turn adds its call to the calls. -/
theorem calls_turn (row : Row) (s : σ × List Call) :
    (turn service d query row s).2.2 =
      s.2 ++ (turn service d query row s).1.call?.toList := by
  unfold turn
  split
  · exact (List.append_nil _).symm
  · rfl

theorem map_row_turns (batch : List Row) (s : σ × List Call) :
    (turns service d query batch s).map (·.row) = batch := by
  induction batch generalizing s with
  | nil => rfl
  | cons row rest ih => rw [turns, List.map_cons, ih, (row_turn service d query row s).1]

/-- The first turn and, unless it ends the retry, the others. -/
theorem run_retryParts_cons (row : Row) (rest : List Row) (s : σ × List Call)
    (hcancelled : cancelled s = false) :
    (retryParts d query rowIndex (row :: rest)).run service.recording cancelled s =
      if (turn service d query row s).1.ends d then
        ([(turn service d query row s).1.part d rowIndex], (turn service d query row s).2)
      else
        ((turn service d query row s).1.part d rowIndex ::
            ((retryParts d query rowIndex rest).run service.recording cancelled
              (turn service d query row s).2).1,
          ((retryParts d query rowIndex rest).run service.recording cancelled
            (turn service d query row s).2).2) := by
  have hrow := (row_turn service d query row s).1
  rw [retryParts, Evaluation.run, hcancelled]
  show ((evaluateSelect query row d.base? d.declared).bind _).run service.recording cancelled s = _
  rw [Evaluation.run_bind, run_evaluateSelect]
  cases hanswer : (turn service d query row s).1.answer with
  | ok solutions =>
    simp only [Turn.ends, Turn.part, hanswer, hrow, Bool.false_eq_true, if_false]
    exact Evaluation.run_map service.recording cancelled _ _ _
  | error e =>
    simp only [Turn.ends, Turn.part, hanswer, hrow, Except.map]
    cases d.hides e with
    | true => exact Evaluation.run_map service.recording cancelled _ _ _
    | false => rfl

/-- **The retry takes its turns.**

**Proof sketch.** Induction on the rows: the retry looks whether it has been cancelled and, if not,
takes the first turn and goes on unless that ends it. -/
theorem run_retryParts (batch : List Row) (s : σ × List Call) :
    ((retryParts d query rowIndex batch).run service.recording cancelled s).1 =
        (taken cancelled d (turns service d query batch s)).map (·.part d rowIndex) ∧
      ((retryParts d query rowIndex batch).run service.recording cancelled s).2.2 =
        s.2 ++ (taken cancelled d (turns service d query batch s)).filterMap (·.call?) := by
  induction batch generalizing s with
  | nil => exact ⟨rfl, (List.append_nil _).symm⟩
  | cons row rest ih =>
    rw [turns, taken, (row_turn service d query row s).2]
    cases hcancelled : cancelled s with
    | true =>
      rw [retryParts, Evaluation.run, hcancelled]
      exact ⟨rfl, (List.append_nil _).symm⟩
    | false =>
      obtain ⟨hparts, hcalls⟩ := ih (turn service d query row s).2
      rw [run_retryParts_cons service cancelled d query rowIndex row rest s hcancelled]
      cases hends : (turn service d query row s).1.ends d with
      | true =>
        refine ⟨rfl, ?_⟩
        show (turn service d query row s).2.2 = _
        rw [calls_turn]
        cases hcall : (turn service d query row s).1.call? <;> simp [hcall]
      | false =>
        refine ⟨?_, ?_⟩
        · simp only [Bool.false_eq_true, if_false, hparts, List.map_cons]
        · simp only [Bool.false_eq_true, if_false, hcalls, calls_turn]
          cases hcall : (turn service d query row s).1.call? <;> simp [hcall]

/-! ## Which turns are taken -/

theorem taken_prefix (ts : List (Turn σ)) : taken cancelled d ts <+: ts := by
  induction ts with
  | nil => exact List.prefix_rfl
  | cons t rest ih =>
    rw [taken]
    split
    · exact List.nil_prefix
    · rw [List.prefix_cons_inj]
      split
      · exact List.nil_prefix
      · exact ih

/-- A turn is taken exactly if the retry has not found itself cancelled up to it and no earlier turn
has ended it. -/
theorem lt_length_taken_iff {ts : List (Turn σ)} {i : Nat} (hi : i < ts.length) :
    i < (taken cancelled d ts).length ↔
      (∀ t ∈ ts.take (i + 1), cancelled t.before = false) ∧ ∀ t ∈ ts.take i, t.ends d = false := by
  induction ts generalizing i with
  | nil =>
    rw [List.length_nil] at hi
    omega
  | cons t rest ih =>
    rw [taken, List.take_succ_cons]
    simp only [List.mem_cons, forall_eq_or_imp]
    cases hcancelled : cancelled t.before with
    | true => simp
    | false =>
      cases i with
      | zero => simp
      | succ i =>
        rw [List.take_succ_cons]
        simp only [List.mem_cons, forall_eq_or_imp]
        cases hends : t.ends d with
        | true => simp
        | false =>
          rw [List.length_cons] at hi
          simp [ih (Nat.lt_of_succ_lt_succ hi)]

end

/-! ## Main result -/

/-- In a silent clause a retry has no errors but malformed queries. -/
theorem isMalformed_of_mem_items {σ : Type} {d : Descriptor} (hsilent : d.silent = true)
    {rowIndex : Name} {t : Turn σ} {e : FederationError} (h : .error e ∈ t.items d rowIndex) :
    e.isMalformed = true := by
  unfold Turn.items at h
  cases hanswer : t.answer with
  | ok solutions =>
    simp only [hanswer, hsilent, if_true] at h
    exact isMalformed_of_mem_silentItems h
  | error f =>
    simp only [hanswer, Descriptor.hides, hsilent, Bool.true_and] at h
    cases hf : f.isMalformed with
    | true =>
      simp only [hf, Bool.not_true, Bool.false_eq_true, if_false, List.mem_singleton] at h
      rw [Except.error.inj h, hf]
    | false => simp [hf] at h

/-- **The retry takes its turns, row by row.** Each row of the batch has its turn, in the order of
the batch, with at most one call. A turn is taken exactly if the retry has not found itself
cancelled up to it and no earlier turn has failed with an error that the clause does not hide, that
is, with a malformed query or, unless the clause is silent, with any error. The calls are those of
the turns taken, and the items are those that these turns give, one after the other: the rows of an
answer joined to the row, without the row index and cut at the first hidden error of their own; the
row itself if its error is hidden; or the error that has ended the retry. In a silent clause the
items are silenced already: silencing them once more changes no pull.

**Proof sketch.** Induction on the rows shows that the retry takes its turns (`run_retryParts`). In a
silent clause it has no errors but malformed queries. -/
theorem retry_takes_turns {σ : Type} (service : Service σ) (cancelled : σ × List Call → Bool)
    (d : Descriptor) (query : String) (rowIndex : Name) (batch : List Row) (w : σ) :
    ∃ visited, visited <+: turns service d query batch (w, []) ∧
      (turns service d query batch (w, [])).map (·.row) = batch ∧
      (∀ i < batch.length, i < visited.length ↔
        (∀ t ∈ (turns service d query batch (w, [])).take (i + 1), cancelled t.before = false) ∧
          ∀ t ∈ (turns service d query batch (w, [])).take i, t.ends d = false) ∧
      ((retry d query rowIndex batch).run service.recording cancelled (w, [])).2.2 =
        visited.filterMap (·.call?) ∧
      ((retry d query rowIndex batch).run service.recording cancelled (w, [])).1.toList =
        visited.flatMap (·.items d rowIndex) ∧
      (d.silent = true → ∀ n,
        ((retry d query rowIndex batch).run service.recording cancelled (w, [])).1.silent.pull n =
          ((retry d query rowIndex batch).run service.recording cancelled (w, [])).1.pull n) := by
  obtain ⟨hparts, hcalls⟩ := run_retryParts service cancelled d query rowIndex batch (w, [])
  have hrows := map_row_turns service d query batch (w, [])
  have hlength : (turns service d query batch (w, [])).length = batch.length := by
    rw [← List.length_map (·.row), hrows]
  rw [retry, Evaluation.run_map, hparts]
  have hitems : (RowSequence.chain ((taken cancelled d (turns service d query batch (w, []))).map
      (·.part d rowIndex))).toList =
        (taken cancelled d (turns service d query batch (w, []))).flatMap (·.items d rowIndex) := by
    rw [RowSequence.toList_chain, List.flatMap_map]
    simp only [toList_part]
  refine ⟨taken cancelled d (turns service d query batch (w, [])), taken_prefix cancelled d _,
    hrows, fun i hi => lt_length_taken_iff cancelled d (hlength.symm ▸ hi), hcalls, hitems,
    fun hsilent n => ?_⟩
  refine RowSequence.pull_silent (fun e he => ?_) n
  rw [hitems] at he
  obtain ⟨t, -, ht⟩ := List.mem_flatMap.1 he
  exact isMalformed_of_mem_items hsilent ht

end ServiceClause
