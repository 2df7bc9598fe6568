import ServiceClause.Stream.Basic

/-!
# The producer of a stream

The producer looks whether the stream has been closed before it begins a batch and before each row
of a retry, and it notices when the queue does not take an item any more. It ends after an error,
and at its end it closes the source.

## Main definitions

* `ServiceClause.Dispatch.produce` — one step.
* `ServiceClause.Dispatch.settle` — steps until the producer has to wait.

## Main statements

* `ServiceClause.Dispatch.produce_rank` — every step brings the producer nearer to its end.
-/

set_option autoImplicit false

namespace ServiceClause

namespace Dispatch

variable {σ : Type}

/-- What the producer does after an item has been put into the queue. -/
def afterSending : Item → Option RowSequence → Phase
  | .ok _, some rows => .forwarding rows
  | _, _ => .closing

/-- Adds a row to a batch, or evaluates the batch if it is full or there are no more rows. A failure
of the source is sent on, and the rows pulled before it are dropped. -/
def fill (d : Dispatch σ) (s : Stream σ) (batch : List Row) : Stream σ :=
  if batch.length < d.config.blockSize then
    match s.source.next with
    | (some (.ok row), source) => { s with source, phase := .filling (batch ++ [row]) }
    | (some (.error e), source) => { s with source, phase := .sending (.error e) none }
    | (none, source) =>
      { s with source, phase := if batch = [] then .closing else .evaluating (d.evaluation batch) }
  else { s with phase := .evaluating (d.evaluation batch) }

/-- One step of an evaluation. -/
def evaluate (d : Dispatch σ) (s : Stream σ) : Evaluation (Outcome RowSequence) → Stream σ
  | .done (.ok rows) => { s with phase := .forwarding rows }
  | .done (.error e) => { s with phase := .sending (.error e) none }
  | .poll resume => { s with phase := .evaluating (resume s.closed) }
  | .select call resume =>
    let answer := (d.service.select call s.world).1.within call.budget?
    { s with
      world := (d.service.select call s.world).2
      phase := .awaiting answer.delay (resume answer.value) }
  | .ask call resume =>
    let answer := (d.service.ask call s.world).1.within call.budget?
    { s with
      world := (d.service.ask call s.world).2
      phase := .awaiting answer.delay (resume answer.value) }

/-- One step of the producer, unless it has to wait or has ended. -/
def produce (d : Dispatch σ) (s : Stream σ) : Option (Stream σ) :=
  match s.phase with
  | .starting => some { s with phase := if s.closed then .closing else .filling [] }
  | .filling batch => some (d.fill s batch)
  | .evaluating evaluation => some (d.evaluate s evaluation)
  | .awaiting left evaluation =>
    if left = .zero then some { s with phase := .evaluating evaluation } else none
  | .forwarding rows =>
    match rows.next with
    | (none, _) => some { s with phase := .starting }
    | (some item, rest) => some { s with phase := .sending item (some rest) }
  | .sending item rest =>
    if s.closed then some { s with phase := .closing }
    else if s.queue.length < d.capacity then
      some { s with queue := s.queue ++ [item], phase := afterSending item rest }
    else none
  | .closing => some { s with source := s.source.close, phase := .finished }
  | .finished => none

/-! ## Every step leads to the end -/

/-- How far the producer is from its end: first the rows that are not yet in a batch, then the place
of what it is doing in the course of a batch, then the calls that are left, and then the results and
the time that are left. -/
def rank (s : Stream σ) : Nat × Nat × Evaluation (Outcome RowSequence) × Nat :=
  let n := 2 * s.source.items.length
  let nothing : Evaluation (Outcome RowSequence) := .done (.ok .empty)
  match s.phase with
  | .starting => (n, 3, nothing, 0)
  | .filling batch => (if batch = [] then n else n + 1, 2, nothing, 0)
  | .evaluating evaluation => (n, 5, evaluation, 0)
  | .awaiting left evaluation => (n, 5, evaluation, left.nanoseconds + 1)
  | .forwarding rows => (n, 4, nothing, 2 * rows.size)
  | .sending _ none => (n, 4, nothing, 0)
  | .sending _ (some rows) => (n, 4, nothing, 2 * rows.size + 1)
  | .closing => (0, 1, nothing, 0)
  | .finished => (0, 0, nothing, 0)

/-- The order of the distances from the end. -/
abbrev RankLt (a b : Nat × Nat × Evaluation (Outcome RowSequence) × Nat) : Prop :=
  WellFoundedRelation.rel a b

theorem rankLt_rows {m n : Nat} {a b : Nat × Evaluation (Outcome RowSequence) × Nat} (h : m < n) :
    RankLt (m, a) (n, b) := Prod.Lex.left _ _ h

theorem rankLt_place {m n i j : Nat} {a b : Evaluation (Outcome RowSequence) × Nat} (hmn : m ≤ n)
    (h : i < j) : RankLt (m, i, a) (n, j, b) := by
  rcases Nat.lt_or_eq_of_le hmn with h' | rfl
  · exact rankLt_rows h'
  · exact Prod.Lex.right _ (Prod.Lex.left _ _ h)

theorem rankLt_calls {n i k l : Nat} {a b : Evaluation (Outcome RowSequence)}
    (h : Evaluation.Child a b) : RankLt (n, i, a, k) (n, i, b, l) :=
  Prod.Lex.right _ (Prod.Lex.right _ (Prod.Lex.left _ _ h))

theorem rankLt_left {n i k l : Nat} {a : Evaluation (Outcome RowSequence)} (h : k < l) :
    RankLt (n, i, a, k) (n, i, a, l) :=
  Prod.Lex.right _ (Prod.Lex.right _ (Prod.Lex.right _ h))

theorem fill_rank {d : Dispatch σ} {s : Stream σ} {batch : List Row}
    (h : s.phase = .filling batch) : RankLt (rank (d.fill s batch)) (rank s) := by
  have hs : rank s = (if batch = [] then 2 * s.source.items.length
      else 2 * s.source.items.length + 1, 2, .done (.ok .empty), 0) := by simp [rank, h]
  rw [hs]
  unfold fill
  split
  · split
    · next row source heq =>
      have hlength := Source.length_of_next heq
      simp only [rank, List.append_eq_nil_iff, List.cons_ne_self, and_false, ↓reduceIte]
      exact rankLt_rows (by split <;> omega)
    · next e source heq =>
      have hlength := Source.length_of_next heq
      simp only [rank]
      exact rankLt_rows (by split <;> omega)
    · next source heq =>
      have hitems : source.items = s.source.items := Source.items_of_next heq
      by_cases hb : batch = []
      · simp only [rank, hb, ↓reduceIte]
        exact rankLt_place (by omega) (by omega)
      · simp only [rank, hb, ↓reduceIte, hitems]
        exact rankLt_rows (by omega)
  · next hfull =>
    have hb : batch ≠ [] := by
      rintro rfl
      exact hfull (by simpa using d.config.blockSize_pos)
    simp only [rank, hb, ↓reduceIte]
    exact rankLt_rows (by omega)

theorem evaluate_rank {d : Dispatch σ} {s : Stream σ} {e : Evaluation (Outcome RowSequence)}
    (h : s.phase = .evaluating e) : RankLt (rank (d.evaluate s e)) (rank s) := by
  have hs : rank s = (2 * s.source.items.length, 5, e, 0) := by simp [rank, h]
  rw [hs]
  match e with
  | .done (.ok rows) => exact rankLt_place (Nat.le_refl _) (by omega)
  | .done (.error e) => exact rankLt_place (Nat.le_refl _) (by omega)
  | .poll resume => exact rankLt_calls (.poll _)
  | .select call resume => exact rankLt_calls (.select _)
  | .ask call resume => exact rankLt_calls (.ask _)

/-- Every step brings the producer nearer to its end. -/
theorem produce_rank {d : Dispatch σ} {s t : Stream σ} (h : d.produce s = some t) :
    RankLt (rank t) (rank s) := by
  unfold produce at h
  split at h
  · next hp =>
    obtain rfl := Option.some.inj h
    by_cases hc : s.closed
    · simp only [rank, hp, hc, ↓reduceIte]
      exact rankLt_place (by omega) (by omega)
    · simp only [rank, hp, hc, Bool.false_eq_true, ↓reduceIte]
      exact rankLt_place (by omega) (by omega)
  · next hp =>
    obtain rfl := Option.some.inj h
    exact fill_rank hp
  · next hp =>
    obtain rfl := Option.some.inj h
    exact evaluate_rank hp
  · next hp =>
    split at h
    · obtain rfl := Option.some.inj h
      simp only [rank, hp]
      exact rankLt_left (by omega)
    · simp at h
  · next rows hp =>
    split at h
    · obtain rfl := Option.some.inj h
      simp only [rank, hp]
      exact rankLt_place (Nat.le_refl _) (by omega)
    · next item rest heq =>
      obtain rfl := Option.some.inj h
      have := RowSequence.size_next heq
      simp only [rank, hp]
      exact rankLt_left (by omega)
  · next item rest hp =>
    split at h
    · obtain rfl := Option.some.inj h
      cases rest <;> simp only [rank, hp] <;> exact rankLt_place (by omega) (by omega)
    · split at h
      · obtain rfl := Option.some.inj h
        cases rest with
        | none =>
          simp only [rank, hp, afterSending]
          exact rankLt_place (by omega) (by omega)
        | some rows =>
          cases item with
          | error e =>
            simp only [rank, hp, afterSending]
            exact rankLt_place (by omega) (by omega)
          | ok row =>
            simp only [rank, hp, afterSending]
            exact rankLt_left (by omega)
      · simp at h
  · next hp =>
    obtain rfl := Option.some.inj h
    simp only [rank, hp]
    exact rankLt_place (Nat.le_refl _) (by omega)
  · simp at h

/-! ## Running -/

/-- Steps until the producer has to wait or has ended. -/
def settle (d : Dispatch σ) (s : Stream σ) : Stream σ :=
  match _h : d.produce s with
  | some t => d.settle t
  | none => s
termination_by rank s
decreasing_by exact produce_rank ‹_›

end Dispatch

end ServiceClause
