import Mathlib.Data.List.ReduceOption
import ServiceClause.Proofs.Stream.Protocol

/-!
# The source of a stream is released

The producer pulls rows from its source until it has reason to end, and then closes the source. It
does so once, on whichever way it has come to its end, and asks nothing of the source after that;
nor does it pull again after the source has failed. It comes to its end whenever the consumer has
seen the end of the stream, closed it or dropped it. All this is read off the calls that the source
itself has recorded.

## Main definitions

* `ServiceClause.Source.Answered` — what the pulls from a source have been answered.
* `ServiceClause.Dispatch.Released` — the producer has ended and released its source.
* `ServiceClause.Dispatch.ReleasesSource` — what holds of a source at any moment.

## Main statements

* `ServiceClause.Dispatch.drawn_play` — the invariant of all sessions.
* `ServiceClause.Dispatch.phase_finish` — a producer whose stream is closed comes to its end.
* `ServiceClause.Dispatch.stream_releases_source` — the source is released.
-/

set_option autoImplicit false

namespace ServiceClause

/-- A source of these items has answered the pulls in this way and is now as told: the answers are
its first items, of which only the last one can be an error. -/
structure Source.Answered (items : List Item) (answers : List (Option Item)) (s : Source) :
    Prop where
  /-- What has been handed out are the first items. -/
  handed : answers.reduceOption ++ s.items = items
  /-- Nothing is pulled after an error. -/
  last : ∀ e, some (.error e) ∉ answers.dropLast

namespace Dispatch

variable {σ : Type}

/-! ## Calls to the source -/

/-- Whether the producer will pull nothing any more, whatever happens. -/
def Ceased (s : Stream σ) : Prop :=
  match s.phase with
  | .sending _ none | .closing | .finished => True
  | _ => False

/-- What holds of a stream from `source` if these are the answers to the pulls so far. -/
structure Drawn (source : List Item) (s : Stream σ) (answers : List (Option Item)) : Prop where
  /-- The answers are the first items. -/
  answered : s.source.Answered source answers
  /-- If the producer has ended, it has closed the source after the last pull. -/
  released : s.phase = .finished → s.source.calls = answers.map .pull ++ [.close]
  /-- Until then it only pulls. -/
  held : s.phase ≠ .finished → s.source.calls = answers.map .pull
  /-- After an error it pulls no more. -/
  ceased : ∀ e, some (.error e) ∈ answers → Ceased s

variable {d : Dispatch σ} {source : List Item} {s t : Stream σ} {answers : List (Option Item)}

theorem drawn_start (source : List Item) (w : σ) : Drawn source (.start (.ofItems source) w) [] where
  answered := ⟨rfl, fun _ h => by simp at h⟩
  released h := by simp [Stream.start] at h
  held _ := rfl
  ceased _ h := by simp at h

/-- A step that asks nothing of the source keeps the invariant. -/
theorem Drawn.same (hs : Drawn source s answers) (hsource : t.source = s.source)
    (hphase : t.phase = .finished ↔ s.phase = .finished) (hceased : Ceased s → Ceased t) :
    Drawn source t answers where
  answered := hsource ▸ hs.answered
  released h := hsource ▸ hs.released (hphase.1 h)
  held h := hsource ▸ hs.held fun h' => h (hphase.2 h')
  ceased e h := hceased (hs.ceased e h)

/-- A pull keeps the invariant, if the producer ceases to pull after an error. -/
theorem Drawn.pull (hs : Drawn source s answers) {batch : List Row} {answer : Option Item}
    (hp : s.phase = .filling batch) (hnext : s.source.next = (answer, t.source))
    (hphase : t.phase ≠ .finished) (hceased : ∀ e, answer = some (.error e) → Ceased t) :
    Drawn source t (answers ++ [answer]) := by
  -- no pull so far has given an error, since the producer still pulls
  have hnone : ∀ e, some (.error e) ∉ answers := fun e he => by
    have hceased := hs.ceased e he
    simp [Ceased, hp] at hceased
  refine ⟨⟨?_, fun e he => ?_⟩, fun h => absurd h hphase, fun _ => ?_, fun e he => ?_⟩
  · rw [List.reduceOption_append, List.reduceOption_singleton, List.append_assoc,
      Source.items_of_next hnext, hs.answered.handed]
  · rw [List.dropLast_concat] at he
    exact hnone e he
  · rw [Source.calls_of_next hnext, hs.held (by simp [hp]), List.map_append, List.map_singleton]
  · rcases List.mem_append.1 he with he | he
    · exact absurd he (hnone e)
    · exact hceased e (List.mem_singleton.1 he).symm

/-- Closing the source keeps the invariant. -/
theorem Drawn.release (hs : Drawn source s answers) (hp : s.phase = .closing)
    (hsource : t.source = s.source.close) (hphase : t.phase = .finished) :
    Drawn source t answers := by
  have hcalls : t.source.calls = answers.map .pull ++ [.close] := by
    rw [hsource, Source.close, Source.record, hs.held (by simp [hp])]
  refine ⟨⟨?_, hs.answered.last⟩, fun _ => hcalls, fun h => absurd hphase h,
    fun _ _ => by simp [Ceased, hphase]⟩
  rw [hsource]
  exact hs.answered.handed

/-- A step of the producer keeps the invariant. -/
theorem drawn_of_produces (h : d.Produces s t) (hs : Drawn source s answers) :
    ∃ answers', Drawn source t answers' := by
  cases h with
  | pull hp _ hnext => exact ⟨_, hs.pull hp hnext (by simp) (by simp)⟩
  | fail hp _ hnext => exact ⟨_, hs.pull hp hnext (by simp) (by simp [Ceased])⟩
  | exhaust hp hnext => exact ⟨_, hs.pull hp hnext (by simp) (by simp)⟩
  | submit hp _ hready =>
    rcases hready with ⟨-, hsame⟩ | hnext
    · exact ⟨answers, hs.same hsame (by simp [hp]) (by simp [Ceased, hp])⟩
    · exact ⟨_, hs.pull hp hnext (by simp) (by simp)⟩
  | @put item rest hp _ _ =>
    refine ⟨answers, hs.same rfl ?_ ?_⟩
    · cases item <;> cases rest <;> simp [afterSending, hp]
    · cases item <;> cases rest <;> simp [Ceased, afterSending, hp]
  | release hp => exact ⟨answers, hs.release hp rfl rfl⟩
  | _ => exact ⟨answers, hs.same rfl (by simp [*]) (by simp [Ceased, *])⟩

/-- At any moment of any session, the source has been used as it should be.

**Proof sketch.** Every event keeps the invariant (`drawn_of_produces`); what the consumer does and
the time that passes do not touch the source. -/
theorem drawn_play {w : σ} {events : List Event} {s : Session σ}
    (h : d.play events (.start source w) = some s) : ∃ answers, Drawn source s.stream answers := by
  refine play_induction (d := d) (motive := fun s => ∃ answers, Drawn source s.stream answers)
    (fun _ => True) ?_ (fun _ _ => trivial) ⟨[], drawn_start source w⟩ h
  rintro event s t - ⟨answers, hs⟩ hstep
  by_cases hevent : event = .work
  · subst hevent
    obtain ⟨u, hu, rfl⟩ := Option.map_eq_some_iff.1 hstep
    exact drawn_of_produces (produces_of_produce hu) hs
  · obtain ⟨hsource, _, hphase, _⟩ := producer_of_step hevent hstep
    refine ⟨answers, hs.same hsource ?_ ?_⟩
    · rcases hphase with hphase | ⟨left, left', e, hawaits, hawaits'⟩ <;> simp [*]
    · rcases hphase with hphase | ⟨left, left', e, hawaits, hawaits'⟩ <;> simp [Ceased, *]

/-! ## The end of the producer -/

theorem closed_wait (h : d.wait s = some t) : t.closed = s.closed := by
  unfold wait at h
  split at h
  · next hproduce =>
    obtain rfl := Option.some.inj h
    exact (flags_of_produces (produces_of_produce hproduce)).1
  · split at h
    · next left e hp =>
      obtain rfl := Option.some.inj h
      simp [Stream.pass, hp]
    · simp at h

/-- A producer whose stream is closed comes to its end, if the answers that it awaits arrive.

**Proof sketch.** Induction on the steps that are left. Only an open stream with a full queue could
keep the producer from going on (`wait_eq_none`). -/
theorem phase_finish (hclosed : s.closed = true) : (d.finish s).phase = .finished := by
  fun_induction d.finish s with
  | case1 s t hwait ih => exact ih ((closed_wait hwait).trans hclosed)
  | case2 s hwait =>
    rcases wait_eq_none hwait with hp | ⟨hopen, _⟩
    · exact hp
    · rw [hclosed] at hopen
      cases hopen

/-- A producer that has ended does nothing any more. -/
theorem finish_of_finished (hp : s.phase = .finished) : d.finish s = s := by
  unfold finish
  split
  · next t hwait => simp [wait, produce, hp] at hwait
  · rfl

/-! ## Main result -/

/-- The producer has ended, and the calls to its source were pulls and one closing after them. -/
def Released (source : List Item) (s : Stream σ) : Prop :=
  s.phase = .finished ∧ ∃ answers, s.source.Answered source answers ∧
    s.source.calls = answers.map .pull ++ [.close]

/-- What holds of the source of a stream in the session `s`. -/
structure ReleasesSource (d : Dispatch σ) (source : List Item) (s : Session σ) : Prop where
  /-- The producer has ended and released the source, or it has only pulled so far. Of the answers
  to its pulls only the last one can be an error. -/
  order : Released source s.stream ∨
    s.stream.phase ≠ .finished ∧ ∃ answers, s.stream.source.Answered source answers ∧
      s.stream.source.calls = answers.map .pull
  /-- Only finitely many events change anything. -/
  finite : WellFounded fun t s : Session σ => t ≠ s ∧ ∃ event, d.step? event s = some t
  /-- Until the producer has ended it goes on, or time brings an answer that it awaits nearer, unless
  the consumer leaves the stream open and the queue full. -/
  going : s.stream.phase ≠ .finished →
    (∃ event t, (event = .work ∨ ∃ time, event = .pass time) ∧ d.step? event s = some t ∧ t ≠ s) ∨
      s.stream.closed = false ∧ s.stream.ended = false ∧ d.capacity ≤ s.stream.queue.length
  /-- A producer whose stream is closed or at its end comes to its own end. -/
  ending : s.stream.closed = true ∨ s.stream.ended = true → Released source (d.finish s.stream)
  /-- A consumer that closes the stream and waits for the producer waits until the source has been
  closed. -/
  joined : Released source (d.closeAndJoin s.stream)

/-- A producer that has ended has released its source. -/
theorem released_of_finished {w : σ} {events : List Event} {s : Session σ}
    (h : d.play events (.start source w) = some s) (hp : s.stream.phase = .finished) :
    Released source s.stream := by
  obtain ⟨answers, hdrawn⟩ := drawn_play h
  exact ⟨hp, answers, hdrawn.answered, hdrawn.released hp⟩

/-- What the consumer has ended, by closing the stream or by reading up to its end, ends for the
producer too.

**Proof sketch.** A stream that was not closed can only be at its end when the producer has
finished. The steps of the producer to its end are events like others. -/
theorem released_of_ended {w : σ} {events : List Event} {s : Session σ}
    (h : d.play events (.start source w) = some s)
    (hended : s.stream.closed = true ∨ s.stream.ended = true) :
    Released source (d.finish s.stream) := by
  have hphase : (d.finish s.stream).phase = .finished := by
    cases hclosed : s.stream.closed with
    | true => exact phase_finish hclosed
    | false =>
      have hended : s.stream.ended = true := hended.resolve_left (by simp [hclosed])
      have hp := ((faithful_play h).exhausted hended hclosed).1
      rw [finish_of_finished hp, hp]
  obtain ⟨later, hlater⟩ := d.exists_play_finish s.stream s.delivered
  have hrun : d.play (events ++ later) (.start source w) =
      some ⟨d.finish s.stream, s.delivered⟩ := by rw [play_append, h]; exact hlater
  exact released_of_finished hrun hphase

/-- A producer that has not ended can go on, or awaits an answer, or the queue is full.

**Proof sketch.** What it waits for is what `wait_eq_none` leaves over. A full queue belongs to a
stream whose end has not been seen, since the producer of another one would have ended. -/
theorem exists_change_of_unfinished {w : σ} {events : List Event} {s : Session σ}
    (h : d.play events (.start source w) = some s) (hp : s.stream.phase ≠ .finished) :
    (∃ event t, (event = .work ∨ ∃ time, event = .pass time) ∧ d.step? event s = some t ∧ t ≠ s) ∨
      s.stream.closed = false ∧ s.stream.ended = false ∧ d.capacity ≤ s.stream.queue.length := by
  cases hwait : d.wait s.stream with
  | some t =>
    obtain ⟨event, hevent, hstep⟩ := step?_of_wait hwait s.delivered
    refine .inl ⟨event, ⟨t, s.delivered⟩, hevent, hstep, fun hsame => ?_⟩
    have hstream : t = s.stream := congrArg Session.stream hsame
    rw [hstream] at hwait
    exact rankLt_irrefl _ (wait_rank hwait)
  | none =>
    obtain ⟨hopen, hfull⟩ := (wait_eq_none hwait).resolve_left hp
    refine .inr ⟨hopen, ?_, hfull⟩
    cases hended : s.stream.ended with
    | false => rfl
    | true => exact absurd ((faithful_play h).exhausted hended hopen).1 hp

/-- **The source is released.** At any moment, whatever has happened, the producer has pulled rows up
to the first error at most and has closed the source once if it has ended, after which it has asked
nothing of the source; and it comes to its end if the consumer has closed the stream, dropped it or
read all of it.

**Proof sketch.** The calls follow from the invariant of all sessions (`drawn_play`). The source has
been closed whenever the producer has ended, so the rest is that it ends: only the consumer of an
open stream with a full queue can keep it waiting (`exists_change_of_unfinished`), and only finitely
many events change anything. -/
theorem stream_releases_source (d : Dispatch σ) (source : List Item) (w : σ) (events : List Event)
    (s : Session σ) (h : d.play events (.start source w) = some s) :
    d.ReleasesSource source s where
  order := by
    by_cases hp : s.stream.phase = .finished
    · exact .inl (released_of_finished h hp)
    · obtain ⟨answers, hdrawn⟩ := drawn_play h
      exact .inr ⟨hp, answers, hdrawn.answered, hdrawn.held hp⟩
  finite := d.wellFounded_changes
  going hp := exists_change_of_unfinished h hp
  ending hended := released_of_ended h hended
  joined := by
    have hclose : d.play (events ++ [.close]) (.start source w) =
        some ⟨s.stream.close, s.delivered⟩ := by rw [play_append, h]; rfl
    exact released_of_ended hclose (.inl rfl)

/-- A stream that is closed while its first row waits for the consumer has released its source, of
which one row is left. -/
theorem echoing_releases_source :
    ∃ s, echoing.play (List.replicate 8 .work ++ .close :: List.replicate 3 .work)
        (.start [.ok .empty, .ok .empty] ()) = some s ∧
      s.stream.source.items.length = 1 ∧ s.stream.source.calls.length = 2 ∧
      s.stream.source.closings = 1 ∧ echoing.ReleasesSource [.ok .empty, .ok .empty] s := by
  have hends : (echoing.play (List.replicate 8 .work ++ .close :: List.replicate 3 .work)
      (.start [.ok .empty, .ok .empty] ())).any
      (fun s => s.stream.source.items.length == 1 && (s.stream.source.calls.length == 2 &&
        s.stream.source.closings == 1)) = true := by
    decide +kernel
  obtain ⟨s, hplay, hsource⟩ := (Option.any_eq_true _ _).1 hends
  obtain ⟨hitems, hasked⟩ := Bool.and_eq_true_iff.1 hsource
  obtain ⟨hcalls, hclosings⟩ := Bool.and_eq_true_iff.1 hasked
  exact ⟨s, hplay, beq_iff_eq.1 hitems, beq_iff_eq.1 hcalls, beq_iff_eq.1 hclosings,
    stream_releases_source echoing [.ok .empty, .ok .empty] () _ s hplay⟩

end Dispatch

end ServiceClause
