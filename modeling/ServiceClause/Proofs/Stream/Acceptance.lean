import ServiceClause.Proofs.Stream.Delivery

/-!
# What the queue of a stream accepts

The queue of a stream forgets the items that are taken out of it or dropped. Here the items that it
has ever accepted are put together from the events of a session, and it is shown that the producer
does not begin to pull a block of rows before the queue has accepted everything that the blocks
before it give.

## Main definitions

* `ServiceClause.Dispatch.accepted` — the items that the queue has accepted.
* `ServiceClause.Dispatch.Passed` — whether the first blocks of a source have been sent completely.
* `ServiceClause.Dispatch.Paced` — how far the producer has come in the source and with the items.

## Main statements

* `ServiceClause.Dispatch.play_induction_accepted` — what every event keeps holds of a session and
  the items that its queue has accepted.
* `ServiceClause.Dispatch.paced_play` — the producer keeps the blocks apart.
* `ServiceClause.Dispatch.firstError?_deliver_of_failure` — the failure of a source comes after all
  blocks.
-/

set_option autoImplicit false

namespace ServiceClause

namespace Dispatch

variable {σ : Type}

/-! ## Accepted items -/

/-- The items that an event has put into the queue. Only the producer puts items there. -/
def admitted (event : Event) (s t : Session σ) : List Item :=
  match event with
  | .work => t.stream.queue.drop s.stream.queue.length
  | _ => []

/-- The items that the queue accepts in the course of events, in their order. -/
def accepted (d : Dispatch σ) : List Event → Session σ → List Item
  | [], _ => []
  | event :: events, s =>
    match d.step? event s with
    | some t => admitted event s t ++ d.accepted events t
    | none => []

/-- What every event keeps holds of a session and the items that its queue has accepted.

**Proof sketch.** Induction on the list of events. -/
theorem play_induction_accepted {d : Dispatch σ} {motive : Session σ → List Item → Prop}
    {events : List Event}
    (hstep : ∀ event ∈ events, ∀ s t items, motive s items → d.step? event s = some t →
      motive t (items ++ admitted event s t))
    {s t : Session σ} (items : List Item) (hs : motive s items)
    (h : d.play events s = some t) : motive t (items ++ d.accepted events s) := by
  induction events generalizing s items with
  | nil =>
    obtain rfl := Option.some.inj h
    simpa [accepted] using hs
  | cons event events ih =>
    rw [play_cons] at h
    obtain ⟨u, hu, hrest⟩ := Option.bind_eq_some_iff.1 h
    have hrun := ih (fun e he => hstep e (List.mem_cons_of_mem _ he))
      (items ++ admitted event s u) (hstep event List.mem_cons_self s u items hs hu) hrest
    simp only [accepted, hu]
    rwa [← List.append_assoc]

/-! ## Blocks one after another -/

/-- The first `k` blocks of the source give no error, and the queue has accepted all that they
give. -/
def Passed (d : Dispatch σ) (source : List Item) (w : σ) (k : Nat) (items : List Item) : Prop :=
  firstError? (d.deliver [] ((d.blocks source).take k) w).1 = none ∧
    (d.deliver [] ((d.blocks source).take k) w).1 <+: items

/-- The producer has pulled the rows of the blocks `done`, and the rows `batch` after them. -/
structure Reached (d : Dispatch σ) (source : List Item) (done : List (List Row)) (batch : List Row)
    (s : Stream σ) : Prop where
  /-- The rest of the source is still to be pulled. -/
  items : source = (done.flatten ++ batch).map .ok ++ s.source.items
  /-- The source has counted the rows. -/
  pulled : s.source.pulled = (done.flatten ++ batch).length
  /-- The blocks are full, or there is nothing after them. -/
  full : (∀ block ∈ done, block.length = d.config.blockSize) ∨ batch = [] ∧ s.source.items = []

/-- Whether the producer is at work on a batch whose results are not all accepted, or between two
batches. -/
def AtWork (s : Stream σ) : Prop :=
  match s.phase with
  | .starting | .evaluating _ | .awaiting _ _ | .forwarding _ | .sending _ (some _) => True
  | .filling _ | .sending _ none | .closing | .finished => False

/-- How far the producer has come when the queue has accepted `items`. -/
structure Paced (d : Dispatch σ) (source : List Item) (w : σ) (s : Stream σ) (items : List Item) :
    Prop where
  /-- All blocks before a row that has been pulled have been sent. -/
  passed : ∀ k, k * d.config.blockSize < s.source.pulled → d.Passed source w k items
  /-- While it pulls rows, nothing of an earlier block is left. -/
  filling : ∀ batch, s.phase = .filling batch → ∃ done, d.Reached source done batch s ∧
    d.deliver [] done w = (items, s.world) ∧ firstError? items = none
  /-- While it is at work on a block, what is left is what the blocks give up to this one. -/
  working : s.closed = false → AtWork s → ∃ done, d.Reached source done [] s ∧
    d.deliver [] done w =
      (items ++ (d.batchOutlook ([], ·) s).1, (d.batchOutlook ([], ·) s).2) ∧
    firstError? items = none

theorem paced_start (d : Dispatch σ) (source : List Item) (w : σ) :
    d.Paced source w (.start (.ofItems source) w) [] where
  passed k h := by simp [Stream.start, Source.ofItems, Source.pulled] at h
  filling batch h := by simp [Stream.start] at h
  working _ _ := by
    refine ⟨[], ⟨rfl, rfl, Or.inl (by simp)⟩, ?_, rfl⟩
    rw [deliver]
    rfl

theorem Passed.append {d : Dispatch σ} {source : List Item} {w : σ} {k : Nat} {items : List Item}
    (h : d.Passed source w k items) (new : List Item) : d.Passed source w k (items ++ new) :=
  ⟨h.1, h.2.trans (List.prefix_append _ _)⟩

theorem length_flatten_of_full {n : Nat} {done : List (List Row)}
    (h : ∀ block ∈ done, block.length = n) : done.flatten.length = done.length * n := by
  induction done with
  | nil => simp
  | cons block done ih =>
    rw [List.flatten_cons, List.length_append, h block List.mem_cons_self,
      ih fun b hb => h b (List.mem_cons_of_mem _ hb), List.length_cons, Nat.succ_mul, Nat.add_comm]

/-- When a row of a new block is pulled, the blocks before it have been sent.

**Proof sketch.** The number of pulled rows is that of the full blocks behind the producer and of
the batch that it fills. Since the batch is not full, `k` blocks of rows are just the blocks behind
it. -/
theorem passed_of_reached {d : Dispatch σ} {source : List Item} {w : σ} {s : Stream σ}
    {items : List Item} {done : List (List Row)} {batch : List Row}
    (hreached : d.Reached source done batch s)
    (hdone : d.deliver [] done w = (items, s.world)) (hnone : firstError? items = none)
    (hfull : ∀ block ∈ done, block.length = d.config.blockSize)
    (hbatch : batch.length < d.config.blockSize) {k : Nat}
    (hk : k * d.config.blockSize = s.source.pulled) : d.Passed source w k items := by
  have hpulled : k * d.config.blockSize = done.length * d.config.blockSize + batch.length := by
    rw [hk, hreached.pulled, List.length_append, length_flatten_of_full hfull]
  have hk' : k = done.length := by
    have hpos := d.config.blockSize_pos
    rcases Nat.lt_trichotomy k done.length with hlt | heq | hlt
    · have := Nat.mul_le_mul_right d.config.blockSize (Nat.succ_le_of_lt hlt)
      rw [Nat.succ_mul] at this
      omega
    · exact heq
    · have := Nat.mul_le_mul_right d.config.blockSize (Nat.succ_le_of_lt hlt)
      rw [Nat.succ_mul] at this
      omega
  have htake : (d.blocks source).take k = done := by
    rw [hreached.items, List.map_append, List.append_assoc, blocks_flatten_append d hfull, hk',
      List.take_left]
  rw [Passed, htake, hdone]
  exact ⟨hnone, List.prefix_rfl⟩

/-! ## Every event keeps the pace -/

/-- Blocks behind a row that is still to be pulled are full. -/
theorem Reached.full_of_next {d : Dispatch σ} {source : List Item} {done : List (List Row)}
    {batch : List Row} {s : Stream σ} (h : d.Reached source done batch s) {item : Item}
    {next : Source} (hnext : s.source.next = (some item, next)) :
    ∀ block ∈ done, block.length = d.config.blockSize := by
  rcases h.full with hfull | ⟨_, hitems⟩
  · exact hfull
  · rw [← Source.items_of_next hnext] at hitems
    simp at hitems

/-- A pull, of a row or of an error, comes after all blocks before it. -/
theorem passed_of_pull {d : Dispatch σ} {source : List Item} {w : σ} {s : Stream σ}
    {items : List Item} (hs : d.Paced source w s items) {batch : List Row} {item : Item}
    {next : Source} (hp : s.phase = .filling batch) (hroom : batch.length < d.config.blockSize)
    (hnext : s.source.next = (some item, next)) {k : Nat}
    (hk : k * d.config.blockSize < next.pulled) : d.Passed source w k items := by
  obtain ⟨done, hreached, hdone, hnone⟩ := hs.filling batch hp
  rw [Source.pulled_of_next hnext] at hk
  rcases Nat.lt_or_eq_of_le (Nat.le_of_lt_succ hk) with hlt | heq
  · exact hs.passed k hlt
  · exact passed_of_reached hreached hdone hnone (hreached.full_of_next hnext) hroom heq

/-- A batch that is submitted is the next block, and what the producer has still to send is what it
gives. -/
theorem working_of_submit {d : Dispatch σ} {source : List Item} {w : σ} {s : Stream σ}
    {items : List Item} {done : List (List Row)} {batch : List Row} {next : Source}
    (hs : d.Ready s) (hp : s.phase = .filling batch) (hne : batch ≠ [])
    (hready : d.config.blockSize ≤ batch.length ∧ next = s.source ∨ s.source.next = (none, next))
    (hreached : d.Reached source done batch s)
    (hdone : d.deliver [] done w = (items, s.world)) (hnone : firstError? items = none) :
    d.Reached source (done ++ [batch]) []
        { s with source := next, phase := .evaluating (d.evaluation batch) } ∧
      d.deliver [] (done ++ [batch]) w =
        (items ++ (outcomeThen ([], ·) ((d.evaluation batch).runToEnd d.service s.world)).1,
          (outcomeThen ([], ·) ((d.evaluation batch).runToEnd d.service s.world)).2) := by
  have hfull : ∀ block ∈ done, block.length = d.config.blockSize :=
    hreached.full.resolve_right fun h => hne h.1
  obtain ⟨hitems, hpulled, -⟩ := source_of_ready hready
  refine ⟨⟨?_, ?_, ?_⟩, ?_⟩
  · rw [hreached.items, hitems]
    simp
  · show next.pulled = _
    rw [hpulled, hreached.pulled]
    simp
  · by_cases hlength : batch.length = d.config.blockSize
    · refine Or.inl fun block hblock => ?_
      rcases List.mem_append.1 hblock with hblock | hblock
      · exact hfull block hblock
      · rw [List.mem_singleton.1 hblock, hlength]
    · have hfits := hs.fits batch hp
      have hnext := hready.resolve_left fun h => by omega
      refine Or.inr ⟨rfl, ?_⟩
      exact hitems.trans (Source.items_eq_nil_of_next hnext (hs.opened (by simp [hp])))
  · have hnothing : d.deliver [] [] = fun w => (([] : List Item), w) := by
      funext w
      rw [deliver]
    have hfirst : firstError? (d.deliver [] done w).1 = none := by rw [hdone]; exact hnone
    rw [deliver_append d [] [batch] hfirst, hdone, deliver_cons, hnothing]

/-- A producer that is at work on a batch after a step was so before, unless the step has submitted
the batch. -/
theorem atWork_of_produces {d : Dispatch σ} {s t : Stream σ} (h : d.Produces s t)
    (hs : HasBatch s) (ht : AtWork t) : AtWork s := by
  obtain ⟨hstarting, hfilling⟩ := hs
  cases h
  case put item rest hp _ _ =>
    cases rest with
    | none =>
      have hclosing : afterSending item none = .closing := by cases item <;> rfl
      simp [AtWork, hclosing] at ht
    | some rows => simp [AtWork, hp]
  all_goals simp_all [AtWork]

theorem not_halted_of_atWork {s : Stream σ} (h : AtWork s) : ¬ Halted s := by
  rintro (hp | hp) <;> simp [AtWork, hp] at h

/-- A step of a producer that has a batch at hand keeps the pace. -/
theorem paced_of_batch_step {d : Dispatch σ} {source : List Item} {w : σ} {s t : Stream σ}
    {items : List Item} (h : d.Produces s t) (hbatch : HasBatch s)
    (hhalted : t.closed = false → (∃ e, .error e ∈ t.queue) → Halted t)
    (hs : d.Paced source w s items) :
    d.Paced source w t (items ++ t.queue.drop s.queue.length) := by
  obtain ⟨hsource, hpulled⟩ := source_of_produces h hbatch
  refine ⟨fun k hk => (hs.passed k (hpulled ▸ hk)).append _,
    fun batch hp => absurd hp (not_filling_of_produces h hbatch batch), fun hopen hwork => ?_⟩
  have hopen' : s.closed = false := (flags_of_produces h).1 ▸ hopen
  obtain ⟨done, ⟨hitems, hcount, hfull⟩, hdone, hnone⟩ :=
    hs.working hopen' (atWork_of_produces h hbatch hwork)
  obtain ⟨new, hqueue, houtlook⟩ := batchOutlook_of_produces h hbatch hopen' ([], ·)
  have hnew : t.queue.drop s.queue.length = new := by rw [hqueue, List.drop_left]
  refine ⟨done, ⟨by rw [hsource, hitems], hpulled.trans hcount, by rwa [hsource]⟩, ?_, ?_⟩
  · rw [hdone, houtlook, hnew, List.append_assoc]
  · refine firstError?_append_eq_none.2 ⟨hnone, ?_⟩
    cases herror : firstError? (t.queue.drop s.queue.length) with
    | none => rfl
    | some e =>
      have hmem := List.mem_of_mem_drop (mem_of_firstError herror)
      exact absurd (hhalted hopen ⟨e, hmem⟩) (not_halted_of_atWork hwork)

/-- A step of the producer keeps the pace.

**Proof sketch.** One case for each rule. Rows are pulled only while nothing of an earlier block is
left (`passed_of_pull`); a batch that is submitted is the next block (`working_of_submit`); and a
block that gives nothing any more has been sent completely. -/
theorem paced_of_produces {d : Dispatch σ} {source : List Item} {w : σ} {s t : Stream σ}
    {items : List Item} (h : d.Produces s t) (hready : d.Ready s)
    (hhalted : t.closed = false → (∃ e, .error e ∈ t.queue) → Halted t)
    (hs : d.Paced source w s items) :
    d.Paced source w t (items ++ t.queue.drop s.queue.length) := by
  by_cases hbatch : HasBatch s
  · exact paced_of_batch_step h hbatch hhalted hs
  · -- a step without a batch at hand leaves the queue alone
    have hqueue : items ++ s.queue.drop s.queue.length = items := by simp
    cases h with
    | begin hp hopen =>
      obtain ⟨done, ⟨hitems, hcount, hfull⟩, hdone, hnone⟩ :=
        hs.working hopen (by simp [AtWork, hp])
      rw [hqueue]
      refine ⟨hs.passed, ?_, fun _ hwork => by simp [AtWork] at hwork⟩
      rintro _ ⟨⟩
      simp only [batchOutlook, hp, List.append_nil] at hdone
      exact ⟨done, ⟨hitems, hcount, hfull⟩, hdone, hnone⟩
    | leave hp _ =>
      rw [hqueue]
      exact ⟨hs.passed, fun _ h => by simp at h, fun _ hwork => by simp [AtWork] at hwork⟩
    | @pull batch row next hp hroom hnext =>
      obtain ⟨done, hreached, hdone, hnone⟩ := hs.filling batch hp
      have hfull := hreached.full_of_next hnext
      rw [hqueue]
      refine ⟨fun k hk => passed_of_pull hs hp hroom hnext hk, ?_,
        fun _ hwork => by simp [AtWork] at hwork⟩
      rintro _ ⟨⟩
      refine ⟨done, ⟨?_, ?_, Or.inl hfull⟩, hdone, hnone⟩
      · rw [hreached.items, ← Source.items_of_next hnext]
        simp
      · show next.pulled = _
        rw [Source.pulled_of_next hnext, hreached.pulled]
        simp
        omega
    | fail hp hroom hnext =>
      rw [hqueue]
      exact ⟨fun k hk => passed_of_pull hs hp hroom hnext hk, fun _ h => by simp at h,
        fun _ hwork => by simp [AtWork] at hwork⟩
    | @exhaust next hp hnext =>
      have hpulled : next.pulled = s.source.pulled := Source.pulled_of_next hnext
      rw [hqueue]
      exact ⟨fun k hk => hs.passed k (hpulled ▸ hk), fun _ h => by simp at h,
        fun _ hwork => by simp [AtWork] at hwork⟩
    | submit hp hne hfull =>
      obtain ⟨done, hreached, hdone, hnone⟩ := hs.filling _ hp
      obtain ⟨hreached', hdone'⟩ := working_of_submit hready hp hne hfull hreached hdone hnone
      rw [hqueue]
      exact ⟨fun k hk => hs.passed k ((source_of_ready hfull).2.1 ▸ hk), fun _ h => by simp at h,
        fun _ _ => ⟨_, hreached', hdone', hnone⟩⟩
    | _ => exact absurd ⟨by simp [*], fun batch => by simp [*]⟩ hbatch

/-- What the consumer takes leaves the producer alone. -/
theorem producer_of_take {s t : Stream σ} {item? : Option Item} (h : s.take = some (item?, t)) :
    t.source = s.source ∧ t.phase = s.phase ∧ t.world = s.world ∧
      (t.closed = false → s.closed = false) := by
  rcases take_eq_some h with ⟨_, rfl, _⟩ | ⟨_, _, _, _, ht⟩ | ⟨_, _, _, _, ht⟩ | ⟨_, _, _, _, rfl⟩
  · exact ⟨rfl, rfl, rfl, id⟩
  · rw [ht]
    exact ⟨rfl, rfl, rfl, id⟩
  · rw [ht]
    exact ⟨rfl, rfl, rfl, fun h => by simp [Stream.close] at h⟩
  · exact ⟨rfl, rfl, rfl, id⟩

/-- What is not a step of the producer leaves the producer alone, unless it brings an answer that is
awaited nearer, and does not open the stream. -/
theorem producer_of_step {d : Dispatch σ} {event : Event} {s t : Session σ} (hevent : event ≠ .work)
    (h : d.step? event s = some t) :
    t.stream.source = s.stream.source ∧ t.stream.world = s.stream.world ∧
      (t.stream.phase = s.stream.phase ∨ ∃ left left' e,
        s.stream.phase = .awaiting left e ∧ t.stream.phase = .awaiting left' e) ∧
      (s.stream.closed = true → t.stream.closed = true) := by
  cases event with
  | work => exact absurd rfl hevent
  | pass time =>
    obtain rfl := Option.some.inj h
    unfold Stream.pass
    split
    · next left e hp => exact ⟨rfl, rfl, .inr ⟨left, _, e, hp, rfl⟩, id⟩
    · exact ⟨rfl, rfl, .inl rfl, id⟩
  | next =>
    obtain ⟨⟨item?, u⟩, hu, rfl⟩ := Option.map_eq_some_iff.1 h
    obtain ⟨hsource, hphase, hworld, hclosed⟩ := producer_of_take hu
    refine ⟨hsource, hworld, .inl hphase, fun hc => ?_⟩
    cases hopen : u.closed with
    | true => rfl
    | false => exact absurd (hc.symm.trans (hclosed hopen)) (by simp)
  | close =>
    obtain rfl := Option.some.inj h
    exact ⟨rfl, rfl, .inl rfl, fun _ => rfl⟩
  | drop =>
    obtain rfl := Option.some.inj h
    exact ⟨rfl, rfl, .inl rfl, fun _ => rfl⟩

/-- The pace is a matter of the producer and of whether the stream is closed. -/
theorem Paced.of_producer {d : Dispatch σ} {source : List Item} {w : σ} {s t : Stream σ}
    {items : List Item} (hs : d.Paced source w s items) (hsource : t.source = s.source)
    (hphase : t.phase = s.phase) (hworld : t.world = s.world)
    (hclosed : t.closed = false → s.closed = false) : d.Paced source w t items := by
  obtain ⟨hpassed, hfilling, hworking⟩ := hs
  refine ⟨fun k hk => hpassed k (hsource ▸ hk), fun batch hp => ?_, fun hopen hwork => ?_⟩
  · obtain ⟨done, hreached, hdone, hnone⟩ := hfilling batch (hphase ▸ hp)
    obtain ⟨hitems, hcount, hfull⟩ := hreached
    exact ⟨done, ⟨hsource ▸ hitems, hsource ▸ hcount, hsource ▸ hfull⟩, hworld ▸ hdone, hnone⟩
  · have hwork' : AtWork s := by simpa only [AtWork, hphase] using hwork
    obtain ⟨done, ⟨hitems, hcount, hfull⟩, hdone, hnone⟩ := hworking (hclosed hopen) hwork'
    have hsame : d.batchOutlook ([], ·) t = d.batchOutlook ([], ·) s := by
      simp only [batchOutlook, hphase, hworld]
    exact ⟨done, ⟨hsource ▸ hitems, hsource ▸ hcount, hsource ▸ hfull⟩, hsame ▸ hdone, hnone⟩

/-- Time that passes keeps the pace. -/
theorem Paced.pass {d : Dispatch σ} {source : List Item} {w : σ} {s : Stream σ}
    {items : List Item} (hs : d.Paced source w s items) (t : Duration) :
    d.Paced source w (s.pass t) items := by
  unfold Stream.pass
  cases hp : s.phase with
  | awaiting left e =>
    refine ⟨hs.passed, fun _ h => by simp at h, fun hopen _ => ?_⟩
    obtain ⟨done, ⟨hitems, hcount, hfull⟩, hdone, hnone⟩ :=
      hs.working hopen (by simp [AtWork, hp])
    simp only [batchOutlook, hp] at hdone
    exact ⟨done, ⟨hitems, hcount, hfull⟩, hdone, hnone⟩
  | _ => exact hs

/-- **The producer keeps the blocks apart.** At any moment of any session, all blocks before a row
that has been pulled have been sent completely.

**Proof sketch.** Every event keeps it (`paced_of_produces`); the consumer does not touch the
producer. -/
theorem paced_play {d : Dispatch σ} {source : List Item} {w : σ} {events : List Event}
    {s : Session σ} (h : d.play events (.start source w) = some s) :
    d.Paced source w s.stream (d.accepted events (.start source w)) := by
  have hboth := play_induction_accepted (d := d) (motive := fun s items =>
    d.Faithful (d.reference source w) s ∧ d.Paced source w s.stream items) ?_
    [] ⟨d.faithful_start source w, d.paced_start source w⟩ h
  · exact hboth.2
  · rintro event _ s t items ⟨hfaithful, hpaced⟩ hstep
    have hfaithful' := faithful_of_step hfaithful hstep
    refine ⟨hfaithful', ?_⟩
    cases event with
    | work =>
      obtain ⟨u, hu, rfl⟩ := Option.map_eq_some_iff.1 hstep
      exact paced_of_produces (produces_of_produce hu) hfaithful.ready hfaithful'.halted hpaced
    | pass time =>
      obtain rfl := Option.some.inj hstep
      simpa [admitted] using hpaced.pass time
    | next =>
      obtain ⟨⟨item?, u⟩, hu, rfl⟩ := Option.map_eq_some_iff.1 hstep
      obtain ⟨hsource, hphase, hworld, hclosed⟩ := producer_of_take hu
      simpa [admitted] using hpaced.of_producer hsource hphase hworld hclosed
    | close =>
      obtain rfl := Option.some.inj hstep
      simpa [admitted] using hpaced.of_producer (t := s.stream.close) rfl rfl rfl
        fun h => by simp [Stream.close] at h
    | drop =>
      obtain rfl := Option.some.inj hstep
      simpa [admitted] using hpaced.of_producer (t := s.stream.drop) rfl rfl rfl
        fun h => by simp [Stream.drop, Stream.close] at h

/-! ## The failure of a source -/

theorem length_flatten_filter_le (p : List Row → Bool) (blocks : List (List Row)) :
    (blocks.filter p).flatten.length ≤ blocks.flatten.length := by
  induction blocks with
  | nil => exact Nat.le_refl _
  | cons block blocks ih =>
    rw [List.filter_cons]
    split
    · simp only [List.flatten_cons, List.length_append]
      omega
    · simp only [List.flatten_cons, List.length_append]
      omega

/-- The blocks of a source that fails have no more rows than it gives before it fails. -/
theorem length_blocks_of_failure (d : Dispatch σ) {source : List Item} {e : FederationError}
    (h : firstError? source = some e) :
    (d.blocks source).length * d.config.blockSize ≤ (rowsBeforeError source).length := by
  have hblocks : d.blocks source = (batches d.config.blockSize (rowsBeforeError source)).filter
      (·.length = d.config.blockSize) := by
    unfold blocks
    rw [h]
  have hfull : ∀ block ∈ d.blocks source, block.length = d.config.blockSize := by
    intro block hblock
    rw [hblocks] at hblock
    simpa using (List.mem_filter.1 hblock).2
  have hlength := length_flatten_filter_le (·.length = d.config.blockSize)
    (batches d.config.blockSize (rowsBeforeError source))
  rwa [flatten_batches, ← hblocks, length_flatten_of_full hfull] at hlength

/-- If the source has failed, then none of its blocks has given an error.

**Proof sketch.** The failure comes after the rows of all blocks, so by then the blocks have been
sent completely (`paced_play`). -/
theorem firstError?_deliver_of_failure {d : Dispatch σ} {source : List Item} {w : σ}
    {events : List Event} {s : Session σ} (h : d.play events (.start source w) = some s)
    (hfailure : ∃ e, .error e ∈ source.take s.stream.source.pulled) :
    firstError? (d.deliver [] (d.blocks source) w).1 = none := by
  obtain ⟨e, he⟩ := hfailure
  obtain ⟨f, hf, _⟩ := exists_firstError (List.mem_of_mem_take he)
  have hpulled : (rowsBeforeError source).length < s.stream.source.pulled := by
    rw [← Nat.not_le]
    intro hle
    obtain ⟨rest, hrest⟩ := prefix_throughError source
    rw [throughError_eq_append hf, List.append_assoc] at hrest
    rw [← hrest, List.take_append_of_le_length (by simpa using hle)] at he
    simpa using List.mem_of_mem_take he
  have hpassed := (paced_play h).passed (d.blocks source).length
    (Nat.lt_of_le_of_lt (d.length_blocks_of_failure hf) hpulled)
  simpa [Passed] using hpassed.1

end Dispatch

end ServiceClause
