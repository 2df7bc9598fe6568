import ServiceClause.Proofs.Stream.Blocks
import ServiceClause.Stream.Producer

/-!
# What a producer is going to deliver

The outlook of a stream is what its producer will still put into the queue, if nobody closes the
stream, and the state in which it will leave the service. A step of the producer does not change the
outlook, the items in the queue counted in: that is the simulation between the producer and the
reference.

## Main definitions

* `ServiceClause.Dispatch.Produces` — what a step of the producer does, one rule for each case.
* `ServiceClause.Dispatch.outlook` — what the producer is going to deliver.
* `ServiceClause.Dispatch.batchOutlook` — what it is going to deliver for the batch at hand.

## Main statements

* `ServiceClause.Dispatch.produces_of_produce` — every step follows one of the rules.
* `ServiceClause.Dispatch.batchOutlook_of_produces`, `ServiceClause.Dispatch.outlook_of_produces` — a
  step keeps both.
-/

set_option autoImplicit false

namespace ServiceClause

namespace Dispatch

variable {σ : Type}

/-! ## What a step does -/

/-- The rules of the producer. -/
inductive Produces (d : Dispatch σ) (s : Stream σ) : Stream σ → Prop where
  /-- It begins a batch. -/
  | begin (phase : s.phase = .starting) (opened : s.closed = false) :
    Produces d s { s with phase := .filling [] }
  /-- It begins no batch since the stream is closed. -/
  | leave (phase : s.phase = .starting) (closed : s.closed = true) :
    Produces d s { s with phase := .closing }
  /-- It adds a row to the batch. -/
  | pull {batch : List Row} {row : Row} {source : Source} (phase : s.phase = .filling batch)
    (room : batch.length < d.config.blockSize) (next : s.source.next = (some (.ok row), source)) :
    Produces d s { s with source, phase := .filling (batch ++ [row]) }
  /-- The source fails, and the batch is given up. -/
  | fail {batch : List Row} {e : FederationError} {source : Source}
    (phase : s.phase = .filling batch) (room : batch.length < d.config.blockSize)
    (next : s.source.next = (some (.error e), source)) :
    Produces d s { s with source, phase := .sending (.error e) none }
  /-- There is nothing to evaluate any more. -/
  | exhaust {source : Source} (phase : s.phase = .filling [])
    (next : s.source.next = (none, source)) : Produces d s { s with source, phase := .closing }
  /-- It evaluates the batch, which is full or the last one. -/
  | submit {batch : List Row} {source : Source} (phase : s.phase = .filling batch)
    (nonempty : batch ≠ [])
    (ready : d.config.blockSize ≤ batch.length ∧ source = s.source ∨
      s.source.next = (none, source)) :
    Produces d s { s with source, phase := .evaluating (d.evaluation batch) }
  /-- The evaluation has given rows. -/
  | succeed {rows : RowSequence} (phase : s.phase = .evaluating (.done (.ok rows))) :
    Produces d s { s with phase := .forwarding rows }
  /-- The evaluation has failed. -/
  | refuse {e : FederationError} (phase : s.phase = .evaluating (.done (.error e))) :
    Produces d s { s with phase := .sending (.error e) none }
  /-- The evaluation looks whether the stream has been closed. -/
  | poll {resume : Bool → Evaluation (Outcome RowSequence)}
    (phase : s.phase = .evaluating (.poll resume)) :
    Produces d s { s with phase := .evaluating (resume s.closed) }
  /-- A query for rows is sent. -/
  | select {call : Call} {resume : Outcome Solutions → Evaluation (Outcome RowSequence)}
    {left : Duration} (phase : s.phase = .evaluating (.select call resume)) :
    Produces d s
      { s with
        world := (d.service.select call s.world).2
        phase := .awaiting left
          (resume ((d.service.select call s.world).1.within call.budget?).value) }
  /-- A query for a truth value is sent. -/
  | ask {call : Call} {resume : Outcome Bool → Evaluation (Outcome RowSequence)}
    {left : Duration} (phase : s.phase = .evaluating (.ask call resume)) :
    Produces d s
      { s with
        world := (d.service.ask call s.world).2
        phase := .awaiting left
          (resume ((d.service.ask call s.world).1.within call.budget?).value) }
  /-- The answer has arrived. -/
  | arrive {left : Duration} {e : Evaluation (Outcome RowSequence)}
    (phase : s.phase = .awaiting left e) : Produces d s { s with phase := .evaluating e }
  /-- All results of the batch have been sent. -/
  | advance {rows rest : RowSequence} (phase : s.phase = .forwarding rows)
    (next : rows.next = (none, rest)) : Produces d s { s with phase := .starting }
  /-- It takes up the next result. -/
  | pick {rows rest : RowSequence} {item : Item} (phase : s.phase = .forwarding rows)
    (next : rows.next = (some item, rest)) :
    Produces d s { s with phase := .sending item (some rest) }
  /-- It sends nothing since the stream is closed. -/
  | abandon {item : Item} {rest : Option RowSequence} (phase : s.phase = .sending item rest)
    (closed : s.closed = true) : Produces d s { s with phase := .closing }
  /-- It puts an item into the queue. -/
  | put {item : Item} {rest : Option RowSequence} (phase : s.phase = .sending item rest)
    (opened : s.closed = false) (room : s.queue.length < d.capacity) :
    Produces d s { s with queue := s.queue ++ [item], phase := afterSending item rest }
  /-- It closes the source. -/
  | release (phase : s.phase = .closing) :
    Produces d s { s with source := s.source.close, phase := .finished }

/-- Submitting a batch takes nothing out of the source. -/
theorem source_of_ready {d : Dispatch σ} {s : Stream σ} {batch : List Row} {source : Source}
    (h : d.config.blockSize ≤ batch.length ∧ source = s.source ∨ s.source.next = (none, source)) :
    source.items = s.source.items ∧ source.pulled = s.source.pulled ∧
      source.closings = s.source.closings := by
  rcases h with ⟨-, rfl⟩ | hnext
  · exact ⟨rfl, rfl, rfl⟩
  · exact ⟨Source.items_of_next hnext, Source.pulled_of_next hnext, Source.closings_of_next hnext⟩

theorem produces_fill {d : Dispatch σ} {s : Stream σ} {batch : List Row}
    (hp : s.phase = .filling batch) : d.Produces s (d.fill s batch) := by
  unfold fill
  split
  · next hroom =>
    split
    · next hnext => exact .pull hp hroom hnext
    · next hnext => exact .fail hp hroom hnext
    · next source hnext =>
      by_cases hb : batch = []
      · subst hb
        exact .exhaust hp hnext
      · rw [if_neg hb]
        exact .submit hp hb (.inr hnext)
  · next hfull =>
    have hle : d.config.blockSize ≤ batch.length := Nat.not_lt.1 hfull
    have hpos := d.config.blockSize_pos
    refine .submit hp ?_ (.inl ⟨hle, rfl⟩)
    rintro rfl
    simp only [List.length_nil] at hle
    omega

theorem produces_evaluate {d : Dispatch σ} {s : Stream σ} {e : Evaluation (Outcome RowSequence)}
    (hp : s.phase = .evaluating e) : d.Produces s (d.evaluate s e) :=
  match e with
  | .done (.ok _) => .succeed hp
  | .done (.error _) => .refuse hp
  | .poll _ => .poll hp
  | .select _ _ => .select hp
  | .ask _ _ => .ask hp

/-- Every step of the producer follows one of its rules. -/
theorem produces_of_produce {d : Dispatch σ} {s t : Stream σ} (h : d.produce s = some t) :
    d.Produces s t := by
  unfold produce at h
  split at h
  · next hp =>
    obtain rfl := Option.some.inj h
    cases hc : s.closed with
    | false => simpa [hc] using Produces.begin (d := d) hp hc
    | true => simpa [hc] using Produces.leave (d := d) hp hc
  · next hp =>
    obtain rfl := Option.some.inj h
    exact produces_fill hp
  · next hp =>
    obtain rfl := Option.some.inj h
    exact produces_evaluate hp
  · next hp =>
    split at h
    · obtain rfl := Option.some.inj h
      exact .arrive hp
    · simp at h
  · next hp =>
    split at h
    · next hnext =>
      obtain rfl := Option.some.inj h
      exact .advance hp hnext
    · next hnext =>
      obtain rfl := Option.some.inj h
      exact .pick hp hnext
  · next hp =>
    split at h
    · next hc =>
      obtain rfl := Option.some.inj h
      exact .abandon hp hc
    · next hc =>
      split at h
      · next hroom =>
        obtain rfl := Option.some.inj h
        exact .put hp (by simpa using hc) hroom
      · simp at h
  · next hp =>
    obtain rfl := Option.some.inj h
    exact .release hp
  · simp at h

/-! ## The outlook -/

/-- What the producer is going to put into the queue and the state in which it will leave the
service, if nobody closes the stream. -/
def outlook (d : Dispatch σ) (s : Stream σ) : List Item × σ :=
  match s.phase with
  | .starting => d.reference s.source.items s.world
  | .filling batch => d.reference (batch.map .ok ++ s.source.items) s.world
  | .evaluating e => outcomeThen (d.reference s.source.items) (e.runToEnd d.service s.world)
  | .awaiting _ e => outcomeThen (d.reference s.source.items) (e.runToEnd d.service s.world)
  | .forwarding rows => resultsThen (d.reference s.source.items) rows.toList s.world
  | .sending item none => ([item], s.world)
  | .sending item (some rest) =>
    resultsThen (d.reference s.source.items) (item :: rest.toList) s.world
  | .closing => ([], s.world)
  | .finished => ([], s.world)

/-- Whether the producer has a batch at hand, or nothing to do any more: it neither pulls rows nor is
about to. -/
def HasBatch (s : Stream σ) : Prop := s.phase ≠ .starting ∧ ∀ batch, s.phase ≠ .filling batch

/-- What the producer is still going to put into the queue for the batch at hand, if nobody closes
the stream, and what `next` delivers after it. -/
def batchOutlook (d : Dispatch σ) (next : σ → List Item × σ) (s : Stream σ) : List Item × σ :=
  match s.phase with
  | .starting => next s.world
  | .filling _ => next s.world
  | .evaluating e => outcomeThen next (e.runToEnd d.service s.world)
  | .awaiting _ e => outcomeThen next (e.runToEnd d.service s.world)
  | .forwarding rows => resultsThen next rows.toList s.world
  | .sending item none => ([item], s.world)
  | .sending item (some rest) => resultsThen next (item :: rest.toList) s.world
  | .closing => ([], s.world)
  | .finished => ([], s.world)

/-- What a producer relies on: its batch is not too large, and the source is open until the
producer has closed it. -/
structure Ready (d : Dispatch σ) (s : Stream σ) : Prop where
  /-- The batch is not too large. -/
  fits : ∀ batch, s.phase = .filling batch → batch.length ≤ d.config.blockSize
  /-- The source is open. -/
  opened : s.phase ≠ .finished → s.source.closings = 0

theorem ready_start (d : Dispatch σ) (source : List Item) (w : σ) :
    d.Ready (.start (.ofItems source) w) :=
  ⟨fun _ h => by simp [Stream.start] at h, fun _ => rfl⟩

/-- The producer keeps what it relies on. -/
theorem ready_of_produces {d : Dispatch σ} {s t : Stream σ} (h : d.Produces s t)
    (hs : d.Ready s) : d.Ready t := by
  obtain ⟨hfits, hopen⟩ := hs
  cases h
  case begin hp _ =>
    refine ⟨?_, fun _ => hopen (by simp [hp])⟩
    rintro _ ⟨⟩
    exact Nat.zero_le _
  case pull hp hroom hnext =>
    refine ⟨?_, fun _ => ?_⟩
    · rintro _ ⟨⟩
      simp only [List.length_append, List.length_singleton]
      omega
    · rw [Source.closings_of_next hnext]
      exact hopen (by simp [hp])
  case fail hp _ hnext =>
    refine ⟨fun _ h => by simp at h, fun _ => ?_⟩
    rw [Source.closings_of_next hnext]
    exact hopen (by simp [hp])
  case exhaust hp hnext =>
    refine ⟨fun _ h => by simp at h, fun _ => ?_⟩
    rw [Source.closings_of_next hnext]
    exact hopen (by simp [hp])
  case submit hp _ hready =>
    refine ⟨fun _ h => by simp at h, fun _ => ?_⟩
    rw [(source_of_ready hready).2.2]
    exact hopen (by simp [hp])
  case put hp _ _ =>
    refine ⟨fun _ h => ?_, fun _ => hopen (by simp [hp])⟩
    simp only [afterSending] at h
    split at h <;> simp at h
  case release hp => exact ⟨fun _ h => by simp at h, fun h => by simp at h⟩
  -- in all other cases the producer neither fills a batch nor touches the source
  all_goals exact ⟨fun _ h => by simp at h, fun _ => hopen (by simp [*])⟩

/-- What the producer does after an item is what follows the item in its results. -/
theorem batchOutlook_afterSending (d : Dispatch σ) (next : σ → List Item × σ) (s : Stream σ)
    (item : Item) (rest : Option RowSequence) {queue : List Item}
    (hp : s.phase = .sending item rest) :
    d.batchOutlook next s =
      (item :: (d.batchOutlook next { s with queue, phase := afterSending item rest }).1,
        (d.batchOutlook next { s with queue, phase := afterSending item rest }).2) := by
  unfold batchOutlook
  rw [hp]
  cases rest with
  | none => cases item <;> rfl
  | some rows =>
    cases item with
    | error e => exact resultsThen_cons_error _ e _ _
    | ok row => exact resultsThen_cons_ok _ row _ _

/-- A producer that has a batch at hand leaves the source alone, until it closes it. -/
theorem source_of_produces {d : Dispatch σ} {s t : Stream σ} (h : d.Produces s t)
    (hs : HasBatch s) : t.source.items = s.source.items ∧ t.source.pulled = s.source.pulled := by
  obtain ⟨hstarting, hfilling⟩ := hs
  cases h
  case begin hp _ => exact absurd hp hstarting
  case pull hp _ _ => exact absurd hp (hfilling _)
  case fail hp _ _ => exact absurd hp (hfilling _)
  case exhaust hp _ => exact absurd hp (hfilling _)
  case submit hp _ _ => exact absurd hp (hfilling _)
  case release => exact ⟨rfl, s.source.pulled_close⟩
  all_goals exact ⟨rfl, rfl⟩

/-- While the stream is open, a step of a producer that has a batch at hand puts nothing into the
queue or the item that was the next one to come.

**Proof sketch.** One case for each rule. The steps of an evaluation are those of its run, and a
result that is put into the queue was the first one to come. -/
theorem batchOutlook_of_produces {d : Dispatch σ} {s t : Stream σ} (h : d.Produces s t)
    (hs : HasBatch s) (hopen : s.closed = false) (next : σ → List Item × σ) :
    ∃ new, t.queue = s.queue ++ new ∧
      d.batchOutlook next s = (new ++ (d.batchOutlook next t).1, (d.batchOutlook next t).2) := by
  obtain ⟨hstarting, hfilling⟩ := hs
  have hstays : ∀ {t : Stream σ}, t.queue = s.queue →
      d.batchOutlook next s = d.batchOutlook next t → ∃ new, t.queue = s.queue ++ new ∧
        d.batchOutlook next s = (new ++ (d.batchOutlook next t).1, (d.batchOutlook next t).2) :=
    fun hq ho => ⟨[], by simpa using hq, ho⟩
  cases h with
  | begin hp _ => exact absurd hp hstarting
  | leave hp _ => exact absurd hp hstarting
  | pull hp _ _ => exact absurd hp (hfilling _)
  | fail hp _ _ => exact absurd hp (hfilling _)
  | exhaust hp _ => exact absurd hp (hfilling _)
  | submit hp _ _ => exact absurd hp (hfilling _)
  | abandon hp hc => exact absurd hc (by simp [hopen])
  | succeed hp => exact hstays rfl (by simp only [batchOutlook, hp]; rfl)
  | refuse hp => exact hstays rfl (by simp only [batchOutlook, hp]; rfl)
  | poll hp => exact hstays rfl (by simp only [batchOutlook, hp, hopen]; rfl)
  | select hp => exact hstays rfl (by simp only [batchOutlook, hp]; rfl)
  | ask hp => exact hstays rfl (by simp only [batchOutlook, hp]; rfl)
  | arrive hp => exact hstays rfl (by simp only [batchOutlook, hp])
  | @advance rows rest hp hnext =>
    refine hstays rfl ?_
    simp only [batchOutlook, hp]
    rw [RowSequence.toList_eq, hnext, resultsThen_nil]
  | @pick rows rest item hp hnext =>
    refine hstays rfl ?_
    simp only [batchOutlook, hp]
    rw [RowSequence.toList_eq rows, hnext]
  | @put item rest hp _ _ => exact ⟨[item], rfl, d.batchOutlook_afterSending next s item rest hp⟩
  | release hp => exact hstays rfl (by simp only [batchOutlook, hp])

/-- A producer that pulls no rows delivers what is left of its batch and then the reference of the
rows that are left. -/
theorem outlook_eq_batchOutlook (d : Dispatch σ) {s : Stream σ}
    (h : ∀ batch, s.phase ≠ .filling batch) :
    d.outlook s = d.batchOutlook (d.reference s.source.items) s := by
  unfold outlook batchOutlook
  cases hp : s.phase with
  | filling batch => exact absurd hp (h batch)
  | sending item rest => cases rest <;> rfl
  | _ => rfl

/-- A producer that has a batch at hand begins to pull rows only after it. -/
theorem not_filling_of_produces {d : Dispatch σ} {s t : Stream σ} (h : d.Produces s t)
    (hs : HasBatch s) (batch : List Row) : t.phase ≠ .filling batch := by
  obtain ⟨hstarting, hfilling⟩ := hs
  cases h
  case begin hp _ => exact absurd hp hstarting
  case pull hp _ _ => exact absurd hp (hfilling _)
  case put item rest _ _ _ =>
    simp only [afterSending]
    split <;> simp
  all_goals simp

/-- While the stream is open, a step of the producer keeps the items in the queue together with
those to come, and the state in which the service will be left.

**Proof sketch.** One case for each rule. A pulled row moves from the source to the batch, which
the reference counts together; a full batch, or the last one, is the next block of the reference;
and what comes after that is known (`batchOutlook_of_produces`). -/
theorem outlook_of_produces {d : Dispatch σ} {s t : Stream σ} (h : d.Produces s t)
    (hs : d.Ready s) (hopen : s.closed = false) :
    t.queue ++ (d.outlook t).1 = s.queue ++ (d.outlook s).1 ∧
      (d.outlook t).2 = (d.outlook s).2 := by
  have hstays : ∀ {t : Stream σ}, t.queue = s.queue → d.outlook t = d.outlook s →
      t.queue ++ (d.outlook t).1 = s.queue ++ (d.outlook s).1 ∧
        (d.outlook t).2 = (d.outlook s).2 := by
    intro t hq ho
    rw [hq, ho]
    exact ⟨rfl, rfl⟩
  by_cases hbatch : HasBatch s
  · obtain ⟨new, hq, ho⟩ :=
      batchOutlook_of_produces h hbatch hopen (d.reference s.source.items)
    rw [d.outlook_eq_batchOutlook hbatch.2,
      d.outlook_eq_batchOutlook (not_filling_of_produces h hbatch),
      (source_of_produces h hbatch).1, ho, hq, List.append_assoc]
    exact ⟨rfl, rfl⟩
  · cases h with
    | begin hp _ => exact hstays rfl (by simp [outlook, hp])
    | leave hp hc => exact absurd hc (by simp [hopen])
    | @pull batch row source hp hroom hnext =>
      have hitems : .ok row :: source.items = s.source.items := Source.items_of_next hnext
      refine hstays rfl ?_
      simp [outlook, hp, ← hitems]
    | @fail batch e source hp hroom hnext =>
      have hitems : .error e :: source.items = s.source.items := Source.items_of_next hnext
      refine hstays rfl ?_
      simp only [outlook, hp, ← hitems]
      rw [reference_unfinished_block d hroom]
    | exhaust hp hnext =>
      have hitems := Source.items_eq_nil_of_next hnext (hs.opened (by simp [hp]))
      refine hstays rfl ?_
      simp [outlook, hp, hitems, reference_nil]
    | @submit batch source hp hne hready =>
      have hfits := hs.fits batch hp
      refine hstays rfl ?_
      simp only [outlook, hp, (source_of_ready hready).1]
      by_cases hfull : batch.length = d.config.blockSize
      · exact (d.reference_block hfull _ _).symm
      · have hnext := hready.resolve_left (fun h => by omega)
        have hitems := Source.items_eq_nil_of_next hnext (hs.opened (by simp [hp]))
        rw [hitems, List.append_nil]
        exact (d.reference_last_block hne hfits _).symm
    | _ => exact absurd ⟨by simp [*], fun batch => by simp [*]⟩ hbatch

end Dispatch

end ServiceClause
