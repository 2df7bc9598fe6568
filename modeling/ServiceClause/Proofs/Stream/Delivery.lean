import ServiceClause.Proofs.Evaluations
import ServiceClause.Proofs.Stream.Outlook
import ServiceClause.Proofs.Stream.Session

/-!
# A stream delivers its reference

Whatever the order in which the producer and the consumer do their steps, and whatever the size of
the queue, a consumer that reads to the end gets the reference: the blocks of the source, evaluated
one after another, up to the first error. The calls to the service are those of the reference too.

## Main definitions

* `ServiceClause.Dispatch.Faithful` — what holds of a session at any moment, whatever its consumer
  does.
* `ServiceClause.Dispatch.recording`, `ServiceClause.Dispatch.referenceCalls` — the calls, written
  down.
* `ServiceClause.IsCut` — rows cut into blocks.

## Main statements

* `ServiceClause.Dispatch.faithful_play` — the invariant of all sessions.
* `ServiceClause.Dispatch.delivered_of_ended` — what a reader has got in the end.
* `ServiceClause.Dispatch.stream_delivers_reference` — a stream equals its reference.
-/

set_option autoImplicit false

namespace ServiceClause

namespace Dispatch

variable {σ : Type}

/-! ## The invariant of a session -/

/-- Whether the producer has nothing more to send. -/
def Halted (s : Stream σ) : Prop := s.phase = .closing ∨ s.phase = .finished

/-- What holds of a session of which `total` is the reference. -/
structure Faithful (d : Dispatch σ) (total : List Item × σ) (s : Session σ) : Prop where
  /-- The producer has what it relies on. -/
  ready : d.Ready s.stream
  /-- A closed stream is at its end for the consumer. -/
  ended_of_closed : s.stream.closed = true → s.stream.ended = true
  /-- A consumer that has seen the end without closing the stream has got everything. -/
  exhausted : s.stream.ended = true → s.stream.closed = false →
    s.stream.phase = .finished ∧ s.stream.queue = []
  /-- Nothing is sent after an error. -/
  halted : s.stream.closed = false → (∃ e, .error e ∈ s.stream.queue) → Halted s.stream
  /-- While the stream is open, every item is delivered, in the queue or still to come. -/
  account : s.stream.closed = false →
    s.delivered ++ (s.stream.queue ++ (d.outlook s.stream).1) = total.1 ∧
      (d.outlook s.stream).2 = total.2
  /-- What has been delivered is the beginning of the reference. -/
  delivered : s.delivered <+: total.1

theorem faithful_start (d : Dispatch σ) (source : List Item) (w : σ) :
    d.Faithful (d.reference source w) (.start source w) where
  ready := d.ready_start source w
  ended_of_closed h := by simp [Session.start, Stream.start] at h
  exhausted h := by simp [Session.start, Stream.start] at h
  halted _ h := by simp [Session.start, Stream.start] at h
  account _ := ⟨rfl, rfl⟩
  delivered := List.nil_prefix

/-- A step of the producer leaves the flags alone. -/
theorem flags_of_produces {d : Dispatch σ} {s t : Stream σ} (h : d.Produces s t) :
    t.closed = s.closed ∧ t.ended = s.ended := by
  cases h <;> exact ⟨rfl, rfl⟩

/-- After an error has been put into the queue, the producer sends nothing any more. -/
theorem halted_of_produces {d : Dispatch σ} {s t : Stream σ} (h : d.Produces s t)
    (hs : (∃ e, .error e ∈ s.queue) → Halted s) (ht : ∃ e, .error e ∈ t.queue) : Halted t := by
  cases h
  case put item rest hp _ _ =>
    obtain ⟨e, he⟩ := ht
    rcases List.mem_append.1 he with he | he
    · have hhalted := hs ⟨e, he⟩
      simp [Halted, hp] at hhalted
    · obtain rfl := List.mem_singleton.1 he
      exact Or.inl rfl
  case leave => exact Or.inl rfl
  case exhaust => exact Or.inl rfl
  case abandon => exact Or.inl rfl
  case release => exact Or.inr rfl
  -- in all other cases the producer was at work, so there was no error in the queue
  all_goals
    have hhalted := hs ht
    simp [Halted, *] at hhalted

theorem faithful_of_work {d : Dispatch σ} {total : List Item × σ} {s : Session σ} {t : Stream σ}
    (h : d.Produces s.stream t) (hs : d.Faithful total s) : d.Faithful total ⟨t, s.delivered⟩ := by
  obtain ⟨hclosed, hended⟩ := flags_of_produces h
  refine ⟨ready_of_produces h hs.ready, ?_, ?_, ?_, ?_, hs.delivered⟩
  · simpa only [hclosed, hended] using hs.ended_of_closed
  · intro he hc
    have hp := (hs.exhausted (hended ▸ he) (hclosed ▸ hc)).1
    cases h <;> simp_all
  · intro hc he
    exact halted_of_produces h (hs.halted (hclosed ▸ hc)) he
  · intro hc
    have hopen : s.stream.closed = false := hclosed ▸ hc
    obtain ⟨hitems, hworld⟩ := hs.account hopen
    obtain ⟨hqueue, hlast⟩ := outlook_of_produces h hs.ready hopen
    exact ⟨by rw [hqueue, hitems], hlast.trans hworld⟩

/-- Time that passes changes nothing that the invariant is about. -/
theorem faithful_of_pass {d : Dispatch σ} {total : List Item × σ} {s : Session σ} (t : Duration)
    (hs : d.Faithful total s) : d.Faithful total ⟨s.stream.pass t, s.delivered⟩ := by
  obtain ⟨s, delivered⟩ := s
  unfold Stream.pass
  cases hp : s.phase with
  | awaiting left e =>
    obtain ⟨⟨hfits, hopen⟩, hended, hexhausted, hhalted, haccount, hdelivered⟩ := hs
    refine ⟨⟨?_, ?_⟩, hended, ?_, ?_, ?_, hdelivered⟩
    · intro batch hb
      simp at hb
    · intro _
      exact hopen (by simp [hp])
    · intro he hc
      have := (hexhausted he hc).1
      simp [hp] at this
    · intro hc he
      have := hhalted hc he
      simp [Halted, hp] at this
    · simpa only [outlook, hp] using haccount
  | _ => exact hs

theorem faithful_of_close {d : Dispatch σ} {total : List Item × σ} {s : Session σ}
    (hs : d.Faithful total s) : d.Faithful total ⟨s.stream.close, s.delivered⟩ where
  ready := ⟨hs.ready.fits, hs.ready.opened⟩
  ended_of_closed _ := rfl
  exhausted _ h := by simp [Stream.close] at h
  halted h := by simp [Stream.close] at h
  account h := by simp [Stream.close] at h
  delivered := hs.delivered

theorem faithful_of_drop {d : Dispatch σ} {total : List Item × σ} {s : Session σ}
    (hs : d.Faithful total s) : d.Faithful total ⟨s.stream.drop, s.delivered⟩ where
  ready := ⟨hs.ready.fits, hs.ready.opened⟩
  ended_of_closed _ := rfl
  exhausted _ h := by simp [Stream.drop, Stream.close] at h
  halted h := by simp [Stream.drop, Stream.close] at h
  account h := by simp [Stream.drop, Stream.close] at h
  delivered := hs.delivered

/-- The consumer has not closed a stream whose end it has not seen. -/
theorem Faithful.closed_eq_false {d : Dispatch σ} {total : List Item × σ} {s : Session σ}
    (hs : d.Faithful total s) (h : s.stream.ended = false) : s.stream.closed = false := by
  cases hc : s.stream.closed with
  | false => rfl
  | true => rw [hs.ended_of_closed hc] at h; exact h

/-- An item that the consumer takes out of the queue is the next one of the reference. -/
theorem Faithful.prefix_of_queue {d : Dispatch σ} {total : List Item × σ} {s : Session σ}
    (hs : d.Faithful total s) (hc : s.stream.closed = false) {item : Item} {queue : List Item}
    (hq : s.stream.queue = item :: queue) : s.delivered ++ [item] <+: total.1 := by
  have hitems := (hs.account hc).1
  rw [hq] at hitems
  exact ⟨queue ++ (d.outlook s.stream).1, by rw [← hitems]; simp⟩

theorem faithful_of_next {d : Dispatch σ} {total : List Item × σ} {s : Session σ}
    {item? : Option Item} {t : Stream σ} (h : s.stream.take = some (item?, t))
    (hs : d.Faithful total s) : d.Faithful total ⟨t, s.delivered ++ item?.toList⟩ := by
  obtain ⟨s, delivered⟩ := s
  rcases take_eq_some h with ⟨rfl, rfl, _⟩ | ⟨row, rfl, hended, hq, ht⟩ |
    ⟨e, rfl, hended, hq, ht⟩ | ⟨rfl, hended, hq, hp, rfl⟩
  · simpa using hs
  · have hc : s.closed = false := hs.closed_eq_false hended
    have hprefix := hs.prefix_of_queue hc hq
    have hlater : d.outlook t = d.outlook s := by rw [ht]; rfl
    have hqueue : s.queue = .ok row :: t.queue := hq
    obtain ⟨hitems, hworld⟩ := hs.account hc
    obtain ⟨⟨hfits, hopen⟩, hclosed, _, hhalted, _, _⟩ := hs
    rw [hqueue] at hitems
    refine ⟨?_, ?_, fun he => ?_, fun _ he => ?_, fun _ => ⟨?_, ?_⟩, hprefix⟩
    · rw [ht]
      exact ⟨hfits, hopen⟩
    · rw [ht]
      exact hclosed
    · rw [ht] at he
      exact absurd (hended.symm.trans he) (by simp)
    · obtain ⟨e, he⟩ := he
      rw [ht]
      exact hhalted hc ⟨e, by rw [hq]; exact List.mem_cons_of_mem _ he⟩
    · rw [hlater, ← hitems]
      simp
    · rw [hlater]
      exact hworld
  · have hc := hs.closed_eq_false hended
    have hprefix := hs.prefix_of_queue hc hq
    rw [ht]
    exact ⟨⟨hs.ready.fits, hs.ready.opened⟩, fun _ => rfl, fun _ h => by simp [Stream.close] at h,
      fun h => by simp [Stream.close] at h, fun h => by simp [Stream.close] at h, hprefix⟩
  · have hc := hs.closed_eq_false hended
    obtain ⟨⟨hfits, hopen⟩, _, _, hhalted, haccount, hdelivered⟩ := hs
    rw [Option.toList_none, List.append_nil]
    exact ⟨⟨hfits, hopen⟩, fun _ => rfl, fun _ _ => ⟨hp, hq⟩, hhalted, haccount, hdelivered⟩

/-- Every event keeps the invariant. -/
theorem faithful_of_step {d : Dispatch σ} {total : List Item × σ} {event : Event}
    {s t : Session σ} (hs : d.Faithful total s) (h : d.step? event s = some t) :
    d.Faithful total t := by
  cases event with
  | work =>
    obtain ⟨u, hu, rfl⟩ := Option.map_eq_some_iff.1 h
    exact faithful_of_work (produces_of_produce hu) hs
  | pass time =>
    obtain rfl := Option.some.inj h
    exact faithful_of_pass time hs
  | next =>
    obtain ⟨⟨item?, u⟩, hu, rfl⟩ := Option.map_eq_some_iff.1 h
    exact faithful_of_next hu hs
  | close =>
    obtain rfl := Option.some.inj h
    exact faithful_of_close hs
  | drop =>
    obtain rfl := Option.some.inj h
    exact faithful_of_drop hs

/-- The invariant holds at any moment of any session, whatever its consumer does. -/
theorem faithful_play {d : Dispatch σ} {source : List Item} {w : σ} {events : List Event}
    {s : Session σ} (h : d.play events (.start source w) = some s) :
    d.Faithful (d.reference source w) s :=
  play_induction (fun _ => True) (fun _ _ _ _ hs h => faithful_of_step hs h)
    (fun _ _ => trivial) (d.faithful_start source w) h

/-! ## Consumers that only read -/

theorem outlook_of_halted (d : Dispatch σ) {s : Stream σ} (h : Halted s) :
    d.outlook s = ([], s.world) := by
  unfold outlook
  rcases h with h | h <;> rw [h]

/-- What holds in addition if the consumer only reads: the stream is closed by an error alone, and
then everything has been delivered and the service is called no more. -/
def Settled (total : List Item × σ) (s : Session σ) : Prop :=
  s.stream.closed = true →
    s.delivered = total.1 ∧ s.stream.world = total.2 ∧ Halted s.stream

/-- A producer that has nothing more to send does not call the service. -/
theorem halted_of_produces_of_halted {d : Dispatch σ} {s t : Stream σ} (h : d.Produces s t)
    (hs : Halted s) : Halted t ∧ t.world = s.world := by
  cases h
  case release => exact ⟨Or.inr rfl, rfl⟩
  all_goals simp [Halted, *] at hs

/-- Reading keeps the addition to the invariant.

**Proof sketch.** The stream becomes closed only when the reader takes an error. Since an error is
the last item of the reference, nothing is left in the queue or still to come, and the producer has
stopped after it. -/
theorem settled_of_step {d : Dispatch σ} {total : List Item × σ} {event : Event}
    {s t : Session σ} (htotal : throughError total.1 = total.1) (hs : d.Faithful total s)
    (hsettled : Settled total s) (hevent : event.isReading = true)
    (h : d.step? event s = some t) : Settled total t := by
  obtain ⟨s, delivered⟩ := s
  cases event with
  | work =>
    obtain ⟨u, hu, rfl⟩ := Option.map_eq_some_iff.1 h
    have hrule := produces_of_produce hu
    intro hc
    have hclosed : s.closed = true := (flags_of_produces hrule).1 ▸ hc
    obtain ⟨hdelivered, hworld, hhalted⟩ := hsettled hclosed
    obtain ⟨hhalted', hworld'⟩ := halted_of_produces_of_halted hrule hhalted
    exact ⟨hdelivered, hworld'.trans hworld, hhalted'⟩
  | pass time =>
    obtain rfl := Option.some.inj h
    unfold Stream.pass
    cases hp : s.phase with
    | awaiting left e =>
      intro hc
      obtain ⟨_, _, hhalted⟩ := hsettled hc
      simp [Halted, hp] at hhalted
    | _ => exact hsettled
  | next =>
    obtain ⟨⟨item?, u⟩, hu, rfl⟩ := Option.map_eq_some_iff.1 h
    rcases take_eq_some (s := s) hu with ⟨rfl, rfl, _⟩ | ⟨row, rfl, hended, hq, ht⟩ |
      ⟨e, rfl, hended, hq, ht⟩ | ⟨rfl, hended, hq, hp, rfl⟩
    · simpa using hsettled
    · intro hc
      have hopen : s.closed = false := hs.closed_eq_false hended
      rw [show (⟨u, delivered ++ [.ok row]⟩ : Session σ).stream = u from rfl, ht] at hc
      exact absurd (hopen.symm.trans hc) (by simp)
    · intro _
      have hopen : s.closed = false := hs.closed_eq_false hended
      have hhalted := hs.halted hopen ⟨e, by simp only [hq, List.mem_cons_self]⟩
      obtain ⟨hitems, hworld⟩ := hs.account hopen
      rw [outlook_of_halted d hhalted] at hitems hworld
      simp only [hq, List.append_nil] at hitems
      have hrest : u.queue = [] := eq_nil_of_throughError (by rw [hitems]; exact htotal)
      rw [ht]
      exact ⟨by rw [← hitems, hrest]; rfl, hworld, hhalted⟩
    · intro hc
      have hopen : s.closed = false := hs.closed_eq_false hended
      exact absurd (hopen.symm.trans hc) (by simp)
  | close => simp [Event.isReading] at hevent
  | drop => simp [Event.isReading] at hevent

/-- A consumer that only reads and has come to the end has got the whole reference, and the service
is in the state in which the reference leaves it. -/
theorem delivered_of_ended {d : Dispatch σ} {source : List Item} {w : σ} {events : List Event}
    {s : Session σ} (hevents : ∀ event ∈ events, event.isReading = true)
    (h : d.play events (.start source w) = some s) (hended : s.stream.ended = true) :
    s.delivered = (d.reference source w).1 ∧ s.stream.world = (d.reference source w).2 := by
  have hboth : d.Faithful (d.reference source w) s ∧ Settled (d.reference source w) s := by
    refine play_induction (motive := fun s => d.Faithful (d.reference source w) s ∧
      Settled (d.reference source w) s) (·.isReading = true) ?_ hevents ⟨d.faithful_start source w, ?_⟩ h
    · rintro event s t hevent ⟨hs, hsettled⟩ hstep
      exact ⟨faithful_of_step hs hstep,
        settled_of_step (d.throughError_reference source w) hs hsettled hevent hstep⟩
    · intro hc
      simp [Session.start, Stream.start] at hc
  obtain ⟨hs, hsettled⟩ := hboth
  cases hc : s.stream.closed with
  | true =>
    obtain ⟨hdelivered, hworld, _⟩ := hsettled hc
    exact ⟨hdelivered, hworld⟩
  | false =>
    obtain ⟨hp, hq⟩ := hs.exhausted hended hc
    obtain ⟨hitems, hworld⟩ := hs.account hc
    rw [outlook_of_halted d (.inr hp)] at hitems hworld
    rw [hq] at hitems
    exact ⟨by simpa using hitems, hworld⟩

end Dispatch

/-! ## Services that remember more -/

theorem outcomeThen_of_refines {σ τ : Type} {f : τ → σ} {next' : τ → List Item × τ}
    {next : σ → List Item × σ} (h : ∀ w, next (f w) = ((next' w).1, f (next' w).2))
    (outcome : Outcome RowSequence) (w : τ) :
    outcomeThen next (outcome, f w) =
      ((outcomeThen next' (outcome, w)).1, f (outcomeThen next' (outcome, w)).2) := by
  cases outcome with
  | error e => rfl
  | ok rows =>
    simp only [outcomeThen, resultsThen, h]
    split <;> rfl

namespace Dispatch

variable {σ : Type}

/-- The same dispatch with another service. -/
def withService {τ : Type} (d : Dispatch σ) (service : Service τ) : Dispatch τ :=
  ⟨d.config, d.clause, service⟩

/-- The reference is the same, whether the service remembers more or not.

**Proof sketch.** Induction on the blocks. -/
theorem reference_of_refines {τ : Type} (d : Dispatch σ) {service : Service τ} {f : τ → σ}
    (h : service.Refines d.service f) (source : List Item) (w : τ) :
    d.reference source (f w) = (((d.withService service).reference source w).1,
      f ((d.withService service).reference source w).2) := by
  rw [reference_eq_deliver, reference_eq_deliver]
  show d.deliver (ending source) (d.blocks source) (f w) =
    (((d.withService service).deliver (ending source) (d.blocks source) w).1,
      f ((d.withService service).deliver (ending source) (d.blocks source) w).2)
  induction d.blocks source generalizing w with
  | nil => rfl
  | cons block rest ih =>
    rw [deliver_cons, deliver_cons, Evaluation.runToEnd_of_refines h, outcomeThen_of_refines ih]
    rfl

/-! ## The calls, and the size of the queue -/

/-- The same dispatch with a service that remembers its calls. -/
def recording (d : Dispatch σ) : Dispatch (σ × List Call) := d.withService d.service.recording

/-- The same dispatch with a queue for so many items. -/
def withCapacity (d : Dispatch σ) (capacity : Nat) : Dispatch σ :=
  { d with config := { d.config with queueCapacity := capacity } }

/-- The calls of the reference in their order. -/
def referenceCalls (d : Dispatch σ) (source : List Item) (w : σ) : List Call :=
  (d.recording.reference source (w, [])).2.2

/-- The reference is the same, whether the service remembers its calls or not. -/
theorem reference_recording (d : Dispatch σ) (source : List Item) (w : σ) :
    d.recording.reference source (w, []) =
      ((d.reference source w).1, (d.reference source w).2, d.referenceCalls source w) := by
  have h := d.reference_of_refines d.service.recording_refines source (w, [])
  rw [h]
  rfl

theorem evaluation_withCapacity (d : Dispatch σ) (capacity : Nat) (block : List Row) :
    (d.withCapacity capacity).evaluation block = d.evaluation block := by
  cases block <;> rfl

/-- The reference does not depend on the size of the queue.

**Proof sketch.** Induction on the blocks: a block is evaluated without regard to the queue. -/
theorem reference_withCapacity (d : Dispatch σ) (capacity : Nat) (source : List Item) (w : σ) :
    (d.withCapacity capacity).reference source w = d.reference source w := by
  rw [reference_eq_deliver, reference_eq_deliver]
  show (d.withCapacity capacity).deliver (ending source) (d.blocks source) w = _
  induction d.blocks source generalizing w with
  | nil => rfl
  | cons block rest ih =>
    have hrest : (d.withCapacity capacity).deliver (ending source) rest =
        d.deliver (ending source) rest := funext ih
    rw [deliver_cons, deliver_cons, evaluation_withCapacity, hrest]
    rfl

end Dispatch

/-! ## Main result -/

/-- What it means that `blocks` are `rows` cut into consecutive blocks of `n`. -/
structure IsCut (n : Nat) (rows : List Row) (blocks : List (List Row)) : Prop where
  /-- The blocks put together are the rows. -/
  flatten : blocks.flatten = rows
  /-- No block is empty or too long. -/
  length : ∀ block ∈ blocks, 0 < block.length ∧ block.length ≤ n
  /-- Only the last block may be shorter. -/
  full : ∀ block ∈ blocks.dropLast, block.length = n

theorem isCut_batches {n : Nat} (hn : 0 < n) (rows : List Row) : IsCut n rows (batches n rows) where
  flatten := flatten_batches n rows
  length _ h := length_of_mem_batches hn h
  full _ h := length_of_mem_dropLast_batches hn h

namespace Dispatch

variable {σ : Type}

/-- **A stream equals its reference.** The source is cut into blocks of `rowsPerBatch` rows, of one
row if that number is not positive. Whatever the size of the queue, and in whatever order the
producer, the consumer and the clock do their steps, a consumer that reads to the end has then got
the reference, and the calls to the service are those of the reference. No such reading gets stuck
before the end, and none goes on for ever; the one that takes every item as soon as it is there is
among them.

**Proof sketch.** What has been delivered, what waits in the queue and what the producer is going
to send make up the reference at any moment (`faithful_play`); at the end nothing is left of the
latter two (`delivered_of_ended`). Every event that changes anything lowers the distance to the end
(`wellFounded_changes`). -/
theorem stream_delivers_reference (d : Dispatch σ) (source : List Item) (w : σ) :
    (∀ rows, IsCut (max 1 d.config.rowsPerBatch).toNat rows (batches d.config.blockSize rows)) ∧
    ∀ capacity,
      (∀ events session, (∀ event ∈ events, event.isReading = true) →
        (d.withCapacity capacity).recording.play events (.start source (w, [])) = some session →
        (session.stream.ended = true →
          session.delivered = (d.reference source w).1 ∧
          session.stream.world = ((d.reference source w).2, d.referenceCalls source w)) ∧
        (session.stream.ended = false → ∃ event next, event.isReading = true ∧
          (d.withCapacity capacity).recording.step? event session = some next ∧
          next ≠ session)) ∧
      (WellFounded fun next session : Session (σ × List Call) => next ≠ session ∧
        ∃ event, (d.withCapacity capacity).recording.step? event session = some next) ∧
      ((d.withCapacity capacity).recording.readAll (.start (.ofItems source) (w, []))).1 =
          (d.reference source w).1 ∧
        ((d.withCapacity capacity).recording.readAll (.start (.ofItems source) (w, []))).2.world =
          ((d.reference source w).2, d.referenceCalls source w) := by
  have hsize : (max 1 d.config.rowsPerBatch).toNat = d.config.blockSize := by
    unfold Config.blockSize
    split <;> omega
  refine ⟨fun rows => hsize ▸ isCut_batches d.config.blockSize_pos rows, fun capacity => ?_⟩
  have hreference : (d.withCapacity capacity).recording.reference source (w, []) =
      ((d.reference source w).1, (d.reference source w).2, d.referenceCalls source w) := by
    rw [← reference_recording]
    exact d.recording.reference_withCapacity capacity source (w, [])
  have hread : ∀ events session, (∀ event ∈ events, event.isReading = true) →
      (d.withCapacity capacity).recording.play events (.start source (w, [])) = some session →
      session.stream.ended = true → session.delivered = (d.reference source w).1 ∧
        session.stream.world = ((d.reference source w).2, d.referenceCalls source w) := by
    intro events session hevents hplay hended
    have hdelivered := delivered_of_ended hevents hplay hended
    rwa [hreference] at hdelivered
  refine ⟨fun events session hevents hplay => ⟨hread events session hevents hplay, ?_⟩,
    wellFounded_changes _, ?_⟩
  · exact exists_reading_step _
  · obtain ⟨events, hevents, hplay, hended⟩ := (d.withCapacity capacity).recording.exists_play_readAll
      (.start (.ofItems source) (w, [])) []
    exact hread events _ hevents hplay hended

end Dispatch

end ServiceClause
