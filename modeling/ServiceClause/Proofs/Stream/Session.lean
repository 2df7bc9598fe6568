import ServiceClause.Stream.Consumer

/-!
# Sessions: a stream and its consumer, in any order of steps

The producer and the consumer of a stream do their steps independently of each other. A session is
the stream together with the items that the consumer has got; an *event* is one step of either
party, or some time that passes. A list of events is one order in which the steps may come, so
statements about all orders are statements about all lists of events.

## Main definitions

* `ServiceClause.Event` — a step of the producer or the consumer, or time.
* `ServiceClause.Session` — a stream and what its consumer has got.
* `ServiceClause.Dispatch.step?`, `ServiceClause.Dispatch.play` — a session after one event and
  after several.

## Main statements

* `ServiceClause.Dispatch.wellFounded_changes` — only finitely many events change anything.
* `ServiceClause.Dispatch.exists_reading_step` — until a reader has seen the end, something can
  happen without its closing the stream.
-/

set_option autoImplicit false

namespace ServiceClause

/-- What may happen next to a stream. -/
inductive Event where
  /-- The producer does a step. -/
  | work
  /-- Time passes. -/
  | pass (t : Duration)
  /-- The consumer takes the next item, or learns that there is none. -/
  | next
  /-- The consumer closes the stream. -/
  | close
  /-- The consumer drops the stream. -/
  | drop
deriving DecidableEq, Repr

/-- Whether an event may occur while the consumer only reads. -/
def Event.isReading : Event → Bool
  | close | drop => false
  | _ => true

/-- A stream and the items that its consumer has got. -/
structure Session (σ : Type) where
  /-- The stream. -/
  stream : Stream σ
  /-- The items in the order in which the consumer got them. -/
  delivered : List Item

variable {σ : Type}

/-- The session in which nothing has happened yet. -/
def Session.start (source : List Item) (world : σ) : Session σ :=
  ⟨.start (.ofItems source) world, []⟩

namespace Dispatch

/-- The session after an event. There is none if the party concerned has to wait. -/
def step? (d : Dispatch σ) (event : Event) (s : Session σ) : Option (Session σ) :=
  match event with
  | .work => (d.produce s.stream).map fun t => ⟨t, s.delivered⟩
  | .pass t => some ⟨s.stream.pass t, s.delivered⟩
  | .next => s.stream.take.map fun r => ⟨r.2, s.delivered ++ r.1.toList⟩
  | .close => some ⟨s.stream.close, s.delivered⟩
  | .drop => some ⟨s.stream.drop, s.delivered⟩

/-- The session after events in this order. -/
def play (d : Dispatch σ) : List Event → Session σ → Option (Session σ)
  | [], s => some s
  | event :: events, s => (d.step? event s).bind (d.play events)

@[simp] theorem play_nil (d : Dispatch σ) (s : Session σ) : d.play [] s = some s := rfl

theorem play_cons (d : Dispatch σ) (event : Event) (events : List Event) (s : Session σ) :
    d.play (event :: events) s = (d.step? event s).bind (d.play events) := rfl

theorem play_append (d : Dispatch σ) (first rest : List Event) (s : Session σ) :
    d.play (first ++ rest) s = (d.play first s).bind (d.play rest) := by
  induction first generalizing s with
  | nil => rfl
  | cons event first ih =>
    rw [List.cons_append, play_cons, play_cons, Option.bind_assoc]
    exact congrArg _ (funext ih)

/-- A property that the start has and every event keeps holds after all events.

**Proof sketch.** Induction on the list of events. -/
theorem play_induction {d : Dispatch σ} {motive : Session σ → Prop} (allowed : Event → Prop)
    (hstep : ∀ event s t, allowed event → motive s → d.step? event s = some t → motive t)
    {events : List Event} {s t : Session σ} (hevents : ∀ event ∈ events, allowed event)
    (hs : motive s) (h : d.play events s = some t) : motive t := by
  induction events generalizing s with
  | nil =>
    obtain rfl := Option.some.inj h
    exact hs
  | cons event events ih =>
    rw [play_cons] at h
    obtain ⟨u, hu, hrest⟩ := Option.bind_eq_some_iff.1 h
    have hallowed := hevents event List.mem_cons_self
    exact ih (fun e he => hevents e (List.mem_cons_of_mem _ he))
      (hstep event s u hallowed hs hu) hrest

/-! ## Every change leads to the end -/

/-- How far a session is from its end: first the producer's own distance, then the items that wait
for the consumer, then what the consumer may still do to the stream. -/
def distance (s : Session σ) : (Nat × Nat × Evaluation (Outcome RowSequence) × Nat) × Nat × Nat :=
  (rank s.stream, s.stream.queue.length,
    (if s.stream.ended then 0 else 1) + (if s.stream.closed then 0 else 1))

/-- The order of the distances. -/
def Nearer (s t : Session σ) : Prop :=
  WellFoundedRelation.rel (distance s) (distance t)

theorem rankLt_irrefl (a : Nat × Nat × Evaluation (Outcome RowSequence) × Nat) : ¬ RankLt a a :=
  WellFoundedRelation.wf.induction (C := fun a => ¬ RankLt a a) a fun a ih h => ih a h h

theorem nearer_of_rank {s t : Session σ} (h : RankLt (rank s.stream) (rank t.stream)) :
    Nearer s t :=
  Prod.Lex.left _ _ h

theorem nearer_of_queue {s t : Session σ} (hr : rank s.stream = rank t.stream)
    (h : s.stream.queue.length < t.stream.queue.length) : Nearer s t := by
  unfold Nearer distance
  rw [hr]
  exact Prod.Lex.right _ (Prod.Lex.left _ _ h)

theorem nearer_of_flags {s t : Session σ} (hr : rank s.stream = rank t.stream)
    (hq : s.stream.queue.length = t.stream.queue.length)
    (h : (if s.stream.ended then 0 else 1) + (if s.stream.closed then 0 else 1) <
      (if t.stream.ended then 0 else 1) + (if t.stream.closed then 0 else 1)) : Nearer s t := by
  unfold Nearer distance
  rw [hr, hq]
  exact Prod.Lex.right _ (Prod.Lex.right _ h)

/-- Time that passes changes nothing, or brings an awaited answer nearer. -/
theorem pass_eq_or_rank (s : Stream σ) (t : Duration) :
    s.pass t = s ∨ RankLt (rank (s.pass t)) (rank s) := by
  unfold Stream.pass
  split
  · next left e hp =>
    by_cases h : left.minus t = left
    · left
      rw [h, ← hp]
    · right
      have hne : left.nanoseconds - t.nanoseconds ≠ left.nanoseconds := fun h' =>
        h (by simp [Duration.minus, h'])
      simp only [rank, hp, Duration.minus]
      exact rankLt_left (by omega)
  · exact Or.inl rfl

/-- What the consumer takes is an item from the queue or the news of the end. -/
theorem take_eq_some {s t : Stream σ} {item? : Option Item} (h : s.take = some (item?, t)) :
    (item? = none ∧ t = s ∧ s.ended = true) ∨
    (∃ row, item? = some (.ok row) ∧ s.ended = false ∧ s.queue = .ok row :: t.queue ∧
      t = { s with queue := t.queue }) ∨
    (∃ e, item? = some (.error e) ∧ s.ended = false ∧ s.queue = .error e :: t.queue ∧
      t = { s with queue := t.queue }.close) ∨
    (item? = none ∧ s.ended = false ∧ s.queue = [] ∧ s.phase = .finished ∧
      t = { s with ended := true }) := by
  unfold Stream.take at h
  split at h
  · next hended =>
    simp only [Option.some.injEq, Prod.mk.injEq] at h
    exact Or.inl ⟨h.1.symm, h.2.symm, hended⟩
  · next hended =>
    have hended : s.ended = false := by simpa using hended
    split at h
    · next row rest hq =>
      simp only [Option.some.injEq, Prod.mk.injEq] at h
      obtain ⟨rfl, rfl⟩ := h
      exact Or.inr (Or.inl ⟨row, rfl, hended, hq, rfl⟩)
    · next e rest hq =>
      simp only [Option.some.injEq, Prod.mk.injEq] at h
      obtain ⟨rfl, rfl⟩ := h
      exact Or.inr (Or.inr (Or.inl ⟨e, rfl, hended, hq, rfl⟩))
    · next hq =>
      split at h
      · next hp =>
        simp only [Option.some.injEq, Prod.mk.injEq] at h
        obtain ⟨rfl, rfl⟩ := h
        exact Or.inr (Or.inr (Or.inr ⟨rfl, hended, hq, hp, rfl⟩))
      · simp at h

/-- The consumer has to wait only for a producer that is still at work. -/
theorem take_eq_none {s : Stream σ} (h : s.take = none) :
    s.ended = false ∧ s.queue = [] ∧ s.phase ≠ .finished := by
  unfold Stream.take at h
  split at h
  · simp at h
  · next hended =>
    split at h
    · simp at h
    · simp at h
    · next hq =>
      split at h
      · simp at h
      · next hp => exact ⟨by simpa using hended, hq, hp⟩

/-- An event leaves the session as it is or brings it nearer to its end.

**Proof sketch.** A step of the producer lowers its rank, and so does time that counts. Taking an
item leaves the rank and shortens the queue; taking the end, closing and dropping raise one of the
two flags, unless they are up. -/
theorem eq_or_nearer_of_step? {d : Dispatch σ} {event : Event} {s t : Session σ}
    (h : d.step? event s = some t) : t = s ∨ Nearer t s := by
  obtain ⟨s, delivered⟩ := s
  cases event with
  | work =>
    obtain ⟨u, hu, rfl⟩ := Option.map_eq_some_iff.1 h
    exact Or.inr (nearer_of_rank (produce_rank hu))
  | pass time =>
    obtain rfl := Option.some.inj h
    rcases pass_eq_or_rank s time with hp | hp
    · exact Or.inl (by rw [hp])
    · exact Or.inr (nearer_of_rank hp)
  | next =>
    obtain ⟨⟨item?, u⟩, hu, rfl⟩ := Option.map_eq_some_iff.1 h
    have htake : s.take = some (item?, u) := hu
    rcases take_eq_some htake with ⟨rfl, rfl, _⟩ | ⟨row, rfl, hended, hq, hu⟩ |
      ⟨e, rfl, hended, hq, hu⟩ | ⟨rfl, hended, hq, hp, rfl⟩
    · exact Or.inl (by simp)
    · refine Or.inr (nearer_of_queue ?_ ?_)
      · rw [hu]; rfl
      · rw [hq]; exact Nat.lt_succ_self _
    · refine Or.inr (nearer_of_queue ?_ ?_)
      · rw [hu]; rfl
      · rw [hq]; exact Nat.lt_succ_self _
    · refine Or.inr (nearer_of_flags rfl rfl ?_)
      rw [hended]
      simp
  | close =>
    obtain rfl := Option.some.inj h
    by_cases hflags : s.ended = true ∧ s.closed = true
    · refine Or.inl ?_
      obtain ⟨source, phase, world, queue, closed, ended⟩ := s
      simp only at hflags
      simp [Stream.close, hflags]
    · refine Or.inr (nearer_of_flags rfl rfl ?_)
      cases he : s.ended <;> cases hc : s.closed <;> simp_all [Stream.close]
  | drop =>
    obtain rfl := Option.some.inj h
    by_cases hq : s.queue = []
    · by_cases hflags : s.ended = true ∧ s.closed = true
      · refine Or.inl ?_
        obtain ⟨source, phase, world, queue, closed, ended⟩ := s
        simp only at hflags hq
        simp [Stream.drop, Stream.close, hflags, hq]
      · refine Or.inr (nearer_of_flags rfl ?_ ?_)
        · simp [Stream.drop, hq]
        · cases he : s.ended <;> cases hc : s.closed <;> simp_all [Stream.drop, Stream.close]
    · refine Or.inr (nearer_of_queue rfl ?_)
      exact List.length_pos_iff.2 hq

/-- Only finitely many events change anything, in whatever order they come. -/
theorem wellFounded_changes (d : Dispatch σ) :
    WellFounded fun t s : Session σ => t ≠ s ∧ ∃ event, d.step? event s = some t := by
  refine Subrelation.wf (r := Nearer) ?_ (InvImage.wf distance WellFoundedRelation.wf)
  rintro t s ⟨hne, event, h⟩
  exact (eq_or_nearer_of_step? h).resolve_left hne

/-! ## Nobody waits for ever -/

/-- A producer that neither goes on nor awaits an answer has ended, or the stream is open and the
queue is full. -/
theorem wait_eq_none {d : Dispatch σ} {s : Stream σ} (h : d.wait s = none) :
    s.phase = .finished ∨ s.closed = false ∧ d.capacity ≤ s.queue.length := by
  unfold wait at h
  cases hproduce : d.produce s with
  | some t => simp [hproduce] at h
  | none =>
    cases hphase : s.phase with
    | awaiting left e => simp [hproduce, hphase] at h
    | finished => exact .inl rfl
    | forwarding rows =>
      simp only [produce, hphase] at hproduce
      split at hproduce <;> simp at hproduce
    | sending item rest =>
      simp only [produce, hphase] at hproduce
      split at hproduce
      · simp at hproduce
      · next hopen =>
        split at hproduce
        · simp at hproduce
        · next hfull => exact .inr ⟨by simpa using hopen, Nat.not_lt.1 hfull⟩
    | _ => simp [produce, hphase] at hproduce

/-- While the consumer has to wait, the producer can go on or awaits an answer.

**Proof sketch.** The queue is empty, so there is room for whatever the producer wants to send. -/
theorem wait_of_take_eq_none (d : Dispatch σ) {s : Stream σ} (h : s.take = none) :
    ∃ t, d.wait s = some t := by
  obtain ⟨_, hq, hp⟩ := take_eq_none h
  have hroom : s.queue.length < d.capacity := by
    rw [hq]
    exact Nat.lt_of_lt_of_le Nat.zero_lt_one (Nat.le_max_right _ _)
  cases hwait : d.wait s with
  | some t => exact ⟨t, rfl⟩
  | none =>
    rcases wait_eq_none hwait with hfinished | ⟨_, hfull⟩
    · exact absurd hfinished hp
    · exact absurd hfull (Nat.not_le.2 hroom)

/-- While the consumer waits, the producer goes on or time passes. -/
theorem step?_of_wait {d : Dispatch σ} {s t : Stream σ} (h : d.wait s = some t)
    (delivered : List Item) :
    ∃ event, (event = .work ∨ ∃ time, event = .pass time) ∧
      d.step? event ⟨s, delivered⟩ = some ⟨t, delivered⟩ := by
  unfold wait at h
  split at h
  · next u hproduce =>
    obtain rfl := Option.some.inj h
    exact ⟨.work, .inl rfl, by simp [step?, hproduce]⟩
  · split at h
    · next left e hphase =>
      obtain rfl := Option.some.inj h
      exact ⟨.pass left, .inr ⟨left, rfl⟩, rfl⟩
    · simp at h

theorem isReading_of_waiting {event : Event} (h : event = .work ∨ ∃ time, event = .pass time) :
    event.isReading = true := by
  rcases h with rfl | ⟨time, rfl⟩ <;> rfl

/-- Until a reader has seen the end, something can happen that changes the session, without the
reader closing the stream.

**Proof sketch.** If the reader has to wait, the producer can go on or time can pass until its
answer arrives; otherwise the reader takes an item or learns of the end. -/
theorem exists_reading_step (d : Dispatch σ) {s : Session σ} (h : s.stream.ended = false) :
    ∃ event t, event.isReading = true ∧ d.step? event s = some t ∧ t ≠ s := by
  cases htake : s.stream.take with
  | some r =>
    refine ⟨.next, ⟨r.2, s.delivered ++ r.1.toList⟩, rfl, by simp [step?, htake], fun hsame => ?_⟩
    have hstream : r.2 = s.stream := congrArg Session.stream hsame
    rcases take_eq_some htake with ⟨_, _, hended⟩ | ⟨row, _, _, hq, _⟩ | ⟨e, _, _, hq, _⟩ |
      ⟨_, _, _, _, ht⟩
    · rw [h] at hended
      exact Bool.noConfusion hended
    · rw [hstream] at hq
      exact List.cons_ne_self _ _ hq.symm
    · rw [hstream] at hq
      exact List.cons_ne_self _ _ hq.symm
    · have hended : s.stream.ended = true := by rw [← hstream, ht]
      rw [h] at hended
      exact Bool.noConfusion hended
  | none =>
    obtain ⟨t, ht⟩ := d.wait_of_take_eq_none htake
    obtain ⟨event, hwaiting, hstep⟩ := step?_of_wait ht s.delivered
    refine ⟨event, ⟨t, s.delivered⟩, isReading_of_waiting hwaiting, hstep, fun hsame => ?_⟩
    have hstream : t = s.stream := congrArg Session.stream hsame
    rw [hstream] at ht
    exact rankLt_irrefl _ (wait_rank ht)

/-- Reading a stream to its end is one order of steps.

**Proof sketch.** Induction on the reading: each item is taken by one event, and each time that the
reader waits the producer goes on or time passes. -/
theorem exists_play_readAll (d : Dispatch σ) (s : Stream σ) (delivered : List Item) :
    ∃ events, (∀ event ∈ events, event.isReading = true) ∧
      d.play events ⟨s, delivered⟩ = some ⟨(d.readAll s).2, delivered ++ (d.readAll s).1⟩ ∧
      (d.readAll s).2.ended = true := by
  fun_induction d.readAll s generalizing delivered with
  | case1 s item t htake ih =>
    obtain ⟨events, hreading, hplay, hended⟩ := ih (delivered ++ [item])
    refine ⟨.next :: events, by simpa [Event.isReading] using hreading, ?_, hended⟩
    simp only [play_cons, step?, htake, Option.map_some, Option.toList_some, Option.bind_some]
    rw [hplay]
    simp
  | case2 s t htake =>
    refine ⟨[.next], by simp [Event.isReading], by simp [play_cons, step?, htake], ?_⟩
    rcases take_eq_some htake with ⟨_, rfl, hended⟩ | ⟨_, hitem, _⟩ | ⟨_, hitem, _⟩ | ⟨_, _, _, _, rfl⟩
    · exact hended
    · simp at hitem
    · simp at hitem
    · rfl
  | case3 s htake t hwait ih =>
    obtain ⟨event, hwaiting, hstep⟩ := step?_of_wait hwait delivered
    obtain ⟨events, hreading, hplay, hended⟩ := ih delivered
    refine ⟨event :: events, by simpa [isReading_of_waiting hwaiting] using hreading, ?_, hended⟩
    rw [play_cons, hstep, Option.bind_some, hplay]
  | case4 s htake hwait =>
    obtain ⟨t, ht⟩ := d.wait_of_take_eq_none htake
    rw [hwait] at ht
    simp at ht

end Dispatch

end ServiceClause
