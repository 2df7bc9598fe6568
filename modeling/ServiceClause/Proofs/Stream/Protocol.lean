import ServiceClause.Proofs.Stream.Acceptance

/-!
# The protocol between producer and consumer

Whatever the consumer does, and in whatever order the steps of both parties come, nothing is lost
between them: what has been delivered, what waits in the queue and what the producer is about to put
there are the beginning of the reference. The queue stays within its bound, no block is begun before
the one before it has been accepted, and an end that the consumer has seen is the end.

## Main definitions

* `ServiceClause.Stream.pending` — the item that the producer wants to put into the queue.
* `ServiceClause.Operation`, `ServiceClause.Dispatch.perform` — what a consumer may do.
* `ServiceClause.Dispatch.KeepsProtocol` — the protocol.

## Main statements

* `ServiceClause.Dispatch.exists_play_perform` — every operation is one order of steps.
* `ServiceClause.Dispatch.stream_keeps_protocol` — the protocol holds at any moment.
-/

set_option autoImplicit false

namespace ServiceClause

/-- The item that the producer wants to put into the queue and for which it waits for a place, if
there is none. -/
def Stream.pending {σ : Type} (s : Stream σ) : List Item :=
  match s.phase with
  | .sending item _ => [item]
  | _ => []

/-- What a consumer may do with a stream. -/
inductive Operation where
  /-- It takes the next item, for which it waits if it has to. -/
  | next
  /-- It closes the stream. -/
  | close
  /-- It closes the stream and waits until the producer has ended. -/
  | closeAndJoin
  /-- It drops the stream. -/
  | drop
  /-- It takes all rows, up to the first error. -/
  | collectAll
deriving DecidableEq, Repr

namespace Dispatch

variable {σ : Type}

/-- The session after an operation of the consumer that nothing else has come between. -/
def perform (d : Dispatch σ) (operation : Operation) (s : Session σ) : Session σ :=
  match operation with
  | .next => ⟨(d.next s.stream).2, s.delivered ++ (d.next s.stream).1.toList⟩
  | .close => ⟨s.stream.close, s.delivered⟩
  | .closeAndJoin => ⟨d.closeAndJoin s.stream, s.delivered⟩
  | .drop => ⟨s.stream.drop, s.delivered⟩
  | .collectAll => ⟨(d.collectAll s.stream).2, s.delivered ++ (d.readAll s.stream).1⟩

/-! ## Operations are orders of steps -/

/-- Waiting for the end of the producer is one order of steps. -/
theorem exists_play_finish (d : Dispatch σ) (s : Stream σ) (delivered : List Item) :
    ∃ events, d.play events ⟨s, delivered⟩ = some ⟨d.finish s, delivered⟩ := by
  fun_induction d.finish s with
  | case1 s t hwait ih =>
    obtain ⟨event, _, hstep⟩ := step?_of_wait hwait delivered
    obtain ⟨events, hplay⟩ := ih
    exact ⟨event :: events, by rw [play_cons, hstep, Option.bind_some, hplay]⟩
  | case2 s hwait => exact ⟨[], rfl⟩

/-- Taking the next item is one order of steps. -/
theorem exists_play_next (d : Dispatch σ) (s : Stream σ) (delivered : List Item) :
    ∃ events, d.play events ⟨s, delivered⟩ =
      some ⟨(d.next s).2, delivered ++ (d.next s).1.toList⟩ := by
  fun_induction d.next s with
  | case1 s r htake => exact ⟨[.next], by simp [play_cons, step?, htake]⟩
  | case2 s htake t hwait ih =>
    obtain ⟨event, _, hstep⟩ := step?_of_wait hwait delivered
    obtain ⟨events, hplay⟩ := ih
    exact ⟨event :: events, by rw [play_cons, hstep, Option.bind_some, hplay]⟩
  | case3 s htake hwait => exact ⟨[], by simp⟩

/-- Every operation of the consumer is one order of steps. -/
theorem exists_play_perform (d : Dispatch σ) (operation : Operation) (s : Session σ) :
    ∃ events, d.play events s = some (d.perform operation s) := by
  obtain ⟨s, delivered⟩ := s
  cases operation with
  | next => exact d.exists_play_next s delivered
  | close => exact ⟨[.close], rfl⟩
  | closeAndJoin =>
    obtain ⟨events, hplay⟩ := d.exists_play_finish s.close delivered
    refine ⟨.close :: (events ++ [.drop]), ?_⟩
    rw [play_cons, step?, Option.bind_some, play_append, hplay]
    rfl
  | drop => exact ⟨[.drop], rfl⟩
  | collectAll =>
    obtain ⟨events, _, hplay, _⟩ := d.exists_play_readAll s delivered
    refine ⟨events ++ [.drop], ?_⟩
    rw [play_append, hplay]
    rfl

/-! ## What every event keeps -/

/-- A step of the producer puts at most one item into the queue, and only if there is a place. -/
theorem queue_of_produces {d : Dispatch σ} {s t : Stream σ} (h : d.Produces s t) :
    t.queue = s.queue ∨
      ∃ item, t.queue = s.queue ++ [item] ∧ s.queue.length < d.capacity := by
  cases h
  case put item _ _ _ hroom => exact .inr ⟨item, rfl, hroom⟩
  all_goals exact .inl rfl

theorem queue_pass (s : Stream σ) (t : Duration) : (s.pass t).queue = s.queue := by
  unfold Stream.pass
  split <;> rfl

/-- The queue stays within its bound. -/
theorem length_queue_of_step {d : Dispatch σ} {event : Event} {s t : Session σ}
    (hs : s.stream.queue.length ≤ d.capacity) (h : d.step? event s = some t) :
    t.stream.queue.length ≤ d.capacity := by
  cases event with
  | work =>
    obtain ⟨u, hu, rfl⟩ := Option.map_eq_some_iff.1 h
    rcases queue_of_produces (produces_of_produce hu) with hqueue | ⟨item, hqueue, hroom⟩
    · simpa only [hqueue] using hs
    · simp only [hqueue, List.length_append, List.length_singleton]
      omega
  | pass time =>
    obtain rfl := Option.some.inj h
    simpa only [queue_pass] using hs
  | next =>
    obtain ⟨⟨item?, u⟩, hu, rfl⟩ := Option.map_eq_some_iff.1 h
    rcases take_eq_some hu with ⟨_, rfl, _⟩ | ⟨_, _, _, hq, _⟩ | ⟨_, _, _, hq, _⟩ |
      ⟨_, _, _, _, rfl⟩
    · exact hs
    · rw [hq, List.length_cons] at hs
      exact Nat.le_of_succ_le hs
    · rw [hq, List.length_cons] at hs
      exact Nat.le_of_succ_le hs
    · exact hs
  | close =>
    obtain rfl := Option.some.inj h
    exact hs
  | drop =>
    obtain rfl := Option.some.inj h
    exact Nat.zero_le _

/-- Every accepted item is delivered or in the queue, unless the stream is dropped. -/
theorem accepted_of_step {d : Dispatch σ} {event : Event} {s t : Session σ} {items : List Item}
    (hs : items = s.delivered ++ s.stream.queue) (hevent : event ≠ .drop)
    (h : d.step? event s = some t) :
    items ++ admitted event s t = t.delivered ++ t.stream.queue := by
  cases event with
  | work =>
    obtain ⟨u, hu, rfl⟩ := Option.map_eq_some_iff.1 h
    rcases queue_of_produces (produces_of_produce hu) with hqueue | ⟨item, hqueue, _⟩
    · simp [admitted, hs, hqueue]
    · simp [admitted, hs, hqueue]
  | pass time =>
    obtain rfl := Option.some.inj h
    simpa [admitted, queue_pass] using hs
  | next =>
    obtain ⟨⟨item?, u⟩, hu, rfl⟩ := Option.map_eq_some_iff.1 h
    rcases take_eq_some hu with ⟨rfl, rfl, _⟩ | ⟨_, rfl, _, hq, _⟩ | ⟨_, rfl, _, hq, _⟩ |
      ⟨rfl, _, _, _, rfl⟩
    · simpa [admitted] using hs
    · simp [admitted, hs, hq]
    · simp [admitted, hs, hq]
    · simpa [admitted] using hs
  | close =>
    obtain rfl := Option.some.inj h
    simpa [admitted, Stream.close] using hs
  | drop => exact absurd rfl hevent

/-- An end that the consumer has seen stays, and nothing is delivered after it. -/
theorem ended_of_step {d : Dispatch σ} {event : Event} {s t : Session σ}
    (hs : s.stream.ended = true) (h : d.step? event s = some t) :
    t.stream.ended = true ∧ t.delivered = s.delivered := by
  cases event with
  | work =>
    obtain ⟨u, hu, rfl⟩ := Option.map_eq_some_iff.1 h
    exact ⟨(flags_of_produces (produces_of_produce hu)).2.trans hs, rfl⟩
  | pass time =>
    obtain rfl := Option.some.inj h
    refine ⟨?_, rfl⟩
    unfold Stream.pass
    split <;> exact hs
  | next =>
    obtain ⟨⟨item?, u⟩, hu, rfl⟩ := Option.map_eq_some_iff.1 h
    simp only [Stream.take, if_pos hs, Option.some.injEq, Prod.mk.injEq] at hu
    obtain ⟨rfl, rfl⟩ := hu
    exact ⟨hs, by simp⟩
  | close =>
    obtain rfl := Option.some.inj h
    exact ⟨rfl, rfl⟩
  | drop =>
    obtain rfl := Option.some.inj h
    exact ⟨rfl, rfl⟩

/-- Closing, dropping, and taking nothing or an error is the end of the stream. -/
theorem ended_of_ending {d : Dispatch σ} {event : Event} {s t : Session σ}
    (h : d.step? event s = some t)
    (hevent : event = .close ∨ event = .drop ∨
      event = .next ∧ ∀ row, t.delivered ≠ s.delivered ++ [.ok row]) :
    t.stream.ended = true := by
  rcases hevent with rfl | rfl | ⟨rfl, hrow⟩
  · obtain rfl := Option.some.inj h
    rfl
  · obtain rfl := Option.some.inj h
    rfl
  · obtain ⟨⟨item?, u⟩, hu, rfl⟩ := Option.map_eq_some_iff.1 h
    rcases take_eq_some hu with ⟨_, rfl, hended⟩ | ⟨row, rfl, _⟩ | ⟨_, _, _, _, ht⟩ |
      ⟨_, _, _, _, rfl⟩
    · exact hended
    · exact absurd rfl (hrow row)
    · rw [ht]
      rfl
    · rfl

/-! ## Main result -/

/-- The protocol between the producer and the consumer of a stream from `source`, in the session `s`
after `events`. -/
structure KeepsProtocol (d : Dispatch σ) (source : List Item) (w : σ) (events : List Event)
    (s : Session σ) : Prop where
  /-- What has been delivered is the beginning of the reference. -/
  delivered : s.delivered <+: (d.reference source w).1
  /-- While the stream is open, so is what has been delivered together with what waits in the queue
  and with what the producer wants to put there. -/
  ordered : s.stream.closed = false →
    s.delivered ++ s.stream.queue ++ s.stream.pending <+: (d.reference source w).1
  /-- The queue stays within its bound. -/
  bounded : s.stream.queue.length ≤ max d.config.queueCapacity 1
  /-- What the queue has accepted is delivered or still there, unless the stream is dropped. -/
  kept : .drop ∉ events →
    d.accepted events (.start source w) = s.delivered ++ s.stream.queue
  /-- When a row after the first `k` blocks is pulled, or an error there, these blocks have given no
  error and everything that they give has been accepted. -/
  paced : ∀ k, k * d.config.blockSize < s.stream.source.pulled →
    firstError? (d.deliver [] ((d.blocks source).take k) w).1 = none ∧
      (d.deliver [] ((d.blocks source).take k) w).1 <+: d.accepted events (.start source w)
  /-- Closing, dropping, and taking nothing or an error is the end of the stream. -/
  ending : ∀ event t, d.step? event s = some t →
    event = .close ∨ event = .drop ∨
      event = .next ∧ (∀ row, t.delivered ≠ s.delivered ++ [.ok row]) →
    t.stream.ended = true
  /-- After the end nothing more is delivered, whatever happens. -/
  ended : s.stream.ended = true → ∀ later t, d.play later s = some t →
    t.stream.ended = true ∧ t.delivered = s.delivered ∧ d.next t.stream = (none, t.stream)
  /-- Every operation of the consumer is one order of steps. -/
  operations : ∀ operation, ∃ later, d.play later s = some (d.perform operation s)

/-- The item that the producer wants to send is the next one to come. -/
theorem pending_prefix_outlook (d : Dispatch σ) (s : Stream σ) :
    s.pending <+: (d.outlook s).1 := by
  unfold Stream.pending outlook
  cases hp : s.phase with
  | sending item rest =>
    cases rest with
    | none => exact List.prefix_rfl
    | some rows =>
      cases item with
      | error e => exact List.prefix_rfl
      | ok row =>
        simp only [resultsThen_cons_ok]
        exact (List.prefix_cons_inj _).2 List.nil_prefix
  | _ => exact List.nil_prefix

/-- **The protocol holds at any moment**, whatever the consumer does and in whatever order the steps
of both parties come.

**Proof sketch.** Each clause is kept by every event. For the order of the items this is
`faithful_play`, where the item to be sent is the first one to come (`pending_prefix_outlook`); for
the blocks it is `paced_play`. -/
theorem stream_keeps_protocol (d : Dispatch σ) (source : List Item) (w : σ) (events : List Event)
    (s : Session σ) (h : d.play events (.start source w) = some s) :
    d.KeepsProtocol source w events s where
  delivered := (faithful_play h).delivered
  ordered hopen := by
    rw [← ((faithful_play h).account hopen).1, List.append_assoc]
    exact (List.prefix_append_right_inj _).2
      ((List.prefix_append_right_inj _).2 (d.pending_prefix_outlook s.stream))
  bounded := by
    refine play_induction (motive := fun s => s.stream.queue.length ≤ d.capacity) (fun _ => True)
      (fun _ _ _ _ hs hstep => length_queue_of_step hs hstep) (fun _ _ => trivial) ?_ h
    exact Nat.zero_le _
  kept hdrop := by
    refine play_induction_accepted (d := d)
      (motive := fun s items => items = s.delivered ++ s.stream.queue) ?_ [] rfl h
    intro event hevent s t items hs hstep
    exact accepted_of_step hs (fun heq => hdrop (heq ▸ hevent)) hstep
  paced k hk := (paced_play h).passed k hk
  ending event t hstep hevent := ended_of_ending hstep hevent
  ended hended later t hlater := by
    obtain ⟨hstays, hsame⟩ := play_induction
      (motive := fun t => t.stream.ended = true ∧ t.delivered = s.delivered) (fun _ => True)
      (fun _ _ _ _ hs hstep =>
        ⟨(ended_of_step hs.1 hstep).1, (ended_of_step hs.1 hstep).2.trans hs.2⟩)
      (fun _ _ => trivial) ⟨hended, rfl⟩ hlater
    exact ⟨hstays, hsame, by rw [next, Stream.take, if_pos hstays]⟩
  operations operation := d.exists_play_perform operation s

/-- A clause of which every row is evaluated by itself, by an endpoint that answers with the row, and
a queue for one item. -/
def echoing : Dispatch Unit where
  config := { rowsPerBatch := 1, queueCapacity := 0 }
  clause := ⟨"http://example.org/", .empty, false, none, fun _ => "SELECT * WHERE \x7b \x7d"⟩
  service := ⟨fun _ w => (.now (.ok (.ofRows [] [.empty])), w), fun _ w => (.now (.ok true), w)⟩

/-- One row waits in the queue and another one for its place. -/
theorem echoing_keeps_protocol :
    ∃ s, echoing.play (List.replicate 16 .work) (.start [.ok .empty, .ok .empty] ()) = some s ∧
      s.stream.queue.length = 1 ∧ s.stream.pending.length = 1 ∧
      echoing.KeepsProtocol [.ok .empty, .ok .empty] () (List.replicate 16 .work) s := by
  have hwaits : (echoing.play (List.replicate 16 .work) (.start [.ok .empty, .ok .empty] ())).any
      (fun s => s.stream.queue.length == 1 && s.stream.pending.length == 1) = true := by
    decide +kernel
  obtain ⟨s, hplay, hlengths⟩ := (Option.any_eq_true _ _).1 hwaits
  obtain ⟨hqueue, hpending⟩ := Bool.and_eq_true_iff.1 hlengths
  exact ⟨s, hplay, beq_iff_eq.1 hqueue, beq_iff_eq.1 hpending,
    stream_keeps_protocol echoing [.ok .empty, .ok .empty] () _ s hplay⟩

end Dispatch

end ServiceClause
