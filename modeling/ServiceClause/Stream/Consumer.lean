import ServiceClause.Stream.Producer

/-!
# The consumer of a stream

The consumer takes items out of the queue and waits when there is none yet. While it waits the
producer goes on, and time passes where an answer is awaited.

## Main definitions

* `ServiceClause.Dispatch.wait` — the producer goes on, or the answer that it awaits arrives.
* `ServiceClause.Dispatch.next`, `readAll`, `collectAll` — reading the stream.
* `ServiceClause.Dispatch.finish`, `elapse` — the end of the producer, and some time.
-/

set_option autoImplicit false

namespace ServiceClause

namespace Dispatch

variable {σ : Type}

/-- The producer goes on by a step, or the answer that it awaits arrives. Nothing happens if it
waits for a place in the queue or has ended. -/
def wait (d : Dispatch σ) (s : Stream σ) : Option (Stream σ) :=
  match d.produce s with
  | some t => some t
  | none => match s.phase with
    | .awaiting left _ => some (s.pass left)
    | _ => none

theorem pass_rank {d : Dispatch σ} {s : Stream σ} {left t : Duration}
    {e : Evaluation (Outcome RowSequence)} (hp : s.phase = .awaiting left e)
    (h : d.produce s = none) (ht : left ≤ t) : RankLt (rank (s.pass t)) (rank s) := by
  have hleft : left ≠ .zero := by
    rintro rfl
    simp [produce, hp] at h
  have hpos : 0 < left.nanoseconds := by
    refine Nat.pos_of_ne_zero fun h0 => hleft ?_
    cases left
    simp_all [Duration.zero]
  have hle : left.nanoseconds ≤ t.nanoseconds := ht
  simp only [rank, Stream.pass, hp, Duration.minus]
  exact rankLt_left (by omega)

theorem wait_rank {d : Dispatch σ} {s t : Stream σ} (h : d.wait s = some t) :
    RankLt (rank t) (rank s) := by
  unfold wait at h
  split at h
  · next heq =>
    obtain rfl := Option.some.inj h
    exact produce_rank heq
  · next heq =>
    split at h
    · next hp =>
      obtain rfl := Option.some.inj h
      exact pass_rank hp heq (Nat.le_refl _)
    · simp at h

/-- Waits until the producer has ended, or for ever for a place in the queue. -/
def finish (d : Dispatch σ) (s : Stream σ) : Stream σ :=
  match _h : d.wait s with
  | some t => d.finish t
  | none => s
termination_by rank s
decreasing_by exact wait_rank ‹_›

/-- Lets time pass: answers arrive when their time has come, and the producer goes on with them. -/
def elapse (d : Dispatch σ) (t : Duration) (s : Stream σ) : Stream σ :=
  match _h : d.produce s with
  | some s' => d.elapse t s'
  | none => match _hp : s.phase with
    | .awaiting left _ => if _ht : left ≤ t then d.elapse (t.minus left) (s.pass left) else s.pass t
    | _ => s
termination_by rank s
decreasing_by
  · exact produce_rank ‹_›
  · exact pass_rank ‹_› ‹_› (Nat.le_refl _)

/-- The next item, for which the consumer waits if it has to; nothing at the end. -/
def next (d : Dispatch σ) (s : Stream σ) : Option Item × Stream σ :=
  match s.take with
  | some r => r
  | none => match _h : d.wait s with
    | some t => d.next t
    | none => (none, s)
termination_by rank s
decreasing_by exact wait_rank ‹_›

theorem take_rank {s t : Stream σ} {item : Item} (h : s.take = some (some item, t)) :
    rank t = rank s ∧ t.queue.length < s.queue.length := by
  unfold Stream.take at h
  split at h
  · simp at h
  · split at h
    · next heq =>
      simp only [Option.some.injEq, Prod.mk.injEq] at h
      obtain ⟨_, rfl⟩ := h
      exact ⟨rfl, by simp [heq]⟩
    · next heq =>
      simp only [Option.some.injEq, Prod.mk.injEq] at h
      obtain ⟨_, rfl⟩ := h
      exact ⟨rfl, by simp [heq, Stream.close]⟩
    · split at h <;> simp at h

/-- All items up to the end, and the stream at its end. -/
def readAll (d : Dispatch σ) (s : Stream σ) : List Item × Stream σ :=
  match _h : s.take with
  | some (some item, t) => (item :: (d.readAll t).1, (d.readAll t).2)
  | some (none, t) => ([], t)
  | none => match _h : d.wait s with
    | some t => d.readAll t
    | none => ([], s)
termination_by (rank s, s.queue.length)
decreasing_by
  all_goals first
    | exact Prod.Lex.left _ _ (wait_rank ‹_›)
    | (obtain ⟨hr, hq⟩ := take_rank ‹_›
       rw [hr]
       exact Prod.Lex.right _ hq)

/-- All rows, or the first error. The stream is dropped afterwards. -/
def collectAll (d : Dispatch σ) (s : Stream σ) : Outcome (List Row) × Stream σ :=
  ((d.readAll s).1.mapM id, (d.readAll s).2.drop)

/-- Closes the stream and waits until the producer has ended. -/
def closeAndJoin (d : Dispatch σ) (s : Stream σ) : Stream σ := (d.finish s.close).drop

end Dispatch

end ServiceClause
