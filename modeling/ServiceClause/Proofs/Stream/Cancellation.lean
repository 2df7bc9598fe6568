import ServiceClause.Proofs.Batch.Cancellation
import ServiceClause.Proofs.Stream.Protocol

/-!
# Calls after a stream has been closed

The producer looks whether the stream has been closed before it begins a batch and before each row of
a retry, and it notices when the queue is closed. It does not look between pulling a batch and
sending the query for it: if the stream is closed while a row is being pulled, this one query is
still sent. At any other moment the call under way is the last one.

## Main definitions

* `ServiceClause.Dispatch.Stopping` — whether no call comes any more once the stream is closed.

## Main statements

* `ServiceClause.Dispatch.stream_calls_after_close` — at most one call comes after closing.
* `ServiceClause.Dispatch.call_after_close` — it may come if a row was being pulled.
-/

set_option autoImplicit false

namespace ServiceClause

open Evaluation

namespace Dispatch

variable {σ : Type}

/-- Whether the producer makes no call any more once the stream is closed. -/
def Stopping (s : Stream σ) : Prop :=
  match s.phase with
  | .filling _ => False
  | .evaluating e | .awaiting _ e => e.Quiet
  | .starting | .forwarding _ | .sending _ _ | .closing | .finished => True

/-- Whether what the producer evaluates looks between its calls. -/
def Watchful (s : Stream σ) : Prop :=
  match s.phase with
  | .evaluating e => e.Careful
  | .awaiting _ e => e.Attentive
  | _ => True

/-! ## Steps of the producer -/

/-- The producer evaluates nothing but batches. -/
theorem watchful_of_produces {d : Dispatch σ} {s t : Stream σ} (h : d.Produces s t)
    (hs : Watchful s) : Watchful t := by
  cases h with
  | submit hp hne hready => exact careful_evaluateBatch d.config d.clause _
  | poll hp =>
    simp only [Watchful, hp] at hs
    cases hs with
    | poll _ hrest => exact hrest _
  | select hp =>
    simp only [Watchful, hp] at hs
    cases hs with
    | select hquiet hrest => exact ⟨hquiet _, hrest _⟩
  | ask hp =>
    simp only [Watchful, hp] at hs
    cases hs with
    | ask hquiet hrest => exact ⟨hquiet _, hrest _⟩
  | arrive hp =>
    simp only [Watchful, hp] at hs
    exact hs.careful
  | @put item rest hp hopen hroom =>
    cases item <;> cases rest <;> exact trivial
  | _ => exact trivial

/-- A producer that stops makes no call. -/
theorem stopping_of_produces {d : Dispatch σ} {s t : Stream σ} (h : d.Produces s t)
    (hclosed : s.closed = true) (hs : Stopping s) : Stopping t ∧ t.world = s.world := by
  cases h with
  | begin hp hopen => exact absurd (hclosed.symm.trans hopen) (by simp)
  | put hp hopen hroom => exact absurd (hclosed.symm.trans hopen) (by simp)
  | poll hp =>
    simp only [Stopping, hp] at hs
    cases hs with
    | poll hquiet =>
      simp only [Stopping, hclosed]
      exact ⟨hquiet, trivial⟩
  | select hp =>
    simp only [Stopping, hp] at hs
    cases hs
  | ask hp =>
    simp only [Stopping, hp] at hs
    cases hs
  | arrive hp =>
    simp only [Stopping, hp] at hs
    exact ⟨hs, rfl⟩
  | _ => simp_all [Stopping]

/-- A step of the producer makes no call, or one after which it stops. -/
theorem calls_of_produces {d : Dispatch σ} {s t : Stream (σ × List Call)}
    (h : d.recording.Produces s t) (hs : Watchful s) :
    t.world.2 = s.world.2 ∨ Stopping t ∧ ∃ call, t.world.2 = s.world.2 ++ [call] := by
  cases h with
  | @select call resume left hp =>
    simp only [Watchful, hp] at hs
    cases hs with
    | select hquiet _ => exact .inr ⟨hquiet _, call, rfl⟩
  | @ask call resume left hp =>
    simp only [Watchful, hp] at hs
    cases hs with
    | ask hquiet _ => exact .inr ⟨hquiet _, call, rfl⟩
  | _ => exact .inl rfl

/-! ## Any events -/

/-- What is not a step of the producer makes no call and leaves it as far as it is. -/
theorem frame_of_step {d : Dispatch σ} {event : Event} {s t : Session σ} (hevent : event ≠ .work)
    (h : d.step? event s = some t) :
    t.stream.world = s.stream.world ∧ (s.stream.closed = true → t.stream.closed = true) ∧
      (Stopping s.stream → Stopping t.stream) ∧ (Watchful s.stream → Watchful t.stream) := by
  obtain ⟨_, hworld, hphase, hclosed⟩ := producer_of_step hevent h
  refine ⟨hworld, hclosed, ?_⟩
  rcases hphase with hphase | ⟨left, left', e, hs, ht⟩
  · simp [Stopping, Watchful, hphase]
  · simp [Stopping, Watchful, hs, ht]

/-- At any moment of any session, what the producer evaluates looks between its calls. -/
theorem watchful_play {d : Dispatch σ} {source : List Item} {w : σ} {events : List Event}
    {s : Session σ} (h : d.play events (.start source w) = some s) : Watchful s.stream := by
  have hstart : Watchful (Session.start source w).stream := trivial
  refine play_induction (motive := fun s => Watchful s.stream) (fun _ => True) ?_
    (fun _ _ => trivial) hstart h
  intro event s t _ hs hstep
  by_cases hevent : event = .work
  · subst hevent
    obtain ⟨u, hu, rfl⟩ := Option.map_eq_some_iff.1 hstep
    exact watchful_of_produces (produces_of_produce hu) hs
  · exact (frame_of_step hevent hstep).2.2.2 hs

/-- An error that is taken is the last item that the producer has sent. -/
theorem halted_of_step {d : Dispatch σ} {total : List Item × σ} {event : Event} {s t : Session σ}
    (hfaithful : d.Faithful total s)
    (hs : (∃ e, .error e ∈ s.delivered) → Halted s.stream) (h : d.step? event s = some t) :
    (∃ e, .error e ∈ t.delivered) → Halted t.stream := by
  cases event with
  | work =>
    obtain ⟨u, hu, rfl⟩ := Option.map_eq_some_iff.1 h
    exact fun he => (halted_of_produces_of_halted (produces_of_produce hu) (hs he)).1
  | pass time =>
    obtain rfl := Option.some.inj h
    intro he
    have hhalted := hs he
    unfold Stream.pass
    split
    · next left e hp => simp [Halted, hp] at hhalted
    · exact hhalted
  | next =>
    obtain ⟨⟨item?, u⟩, hu, rfl⟩ := Option.map_eq_some_iff.1 h
    have hphase := (producer_of_take hu).2.1
    have hsame : Halted s.stream → Halted u := by
      simp only [Halted, hphase]
      exact id
    rcases take_eq_some hu with ⟨rfl, _, _⟩ | ⟨row, rfl, _, _, _⟩ | ⟨e, rfl, hended, hq, _⟩ |
      ⟨rfl, _, _, _, _⟩
    · exact fun he => hsame (hs (by simpa using he))
    · exact fun he => hsame (hs (by simpa using he))
    · exact fun _ => hsame
        (hfaithful.halted (hfaithful.closed_eq_false hended) ⟨e, by simp [hq]⟩)
    · exact fun he => hsame (hs (by simpa using he))
  | close =>
    obtain rfl := Option.some.inj h
    exact hs
  | drop =>
    obtain rfl := Option.some.inj h
    exact hs

/-- After an error has been taken, the producer has nothing more to send. -/
theorem halted_of_error_delivered {d : Dispatch σ} {source : List Item} {w : σ}
    {events : List Event} {s : Session σ} (h : d.play events (.start source w) = some s)
    (he : ∃ e, .error e ∈ s.delivered) : Halted s.stream := by
  have hboth := play_induction (motive := fun s => d.Faithful (d.reference source w) s ∧
    ((∃ e, .error e ∈ s.delivered) → Halted s.stream)) (fun _ => True)
    (fun _ _ _ _ hs hstep => ⟨faithful_of_step hs.1 hstep, halted_of_step hs.1 hs.2 hstep⟩)
    (fun _ _ => trivial) ⟨d.faithful_start source w, fun he => by simp [Session.start] at he⟩ h
  exact hboth.2 he

/-! ## Main result -/

/-- What has been called since the stream was closed, while `calls` were the calls until then. -/
structure Ceasing (calls : List Call) (stopping : Prop) (s : Stream (σ × List Call)) : Prop where
  /-- The stream is closed. -/
  closed : s.closed = true
  /-- What the producer evaluates looks between its calls. -/
  watchful : Watchful s
  /-- There has been no call, or one after which the producer stops. -/
  calls : s.world.2 = calls ∧ (stopping → Stopping s) ∨
    ¬ stopping ∧ Stopping s ∧ ∃ call, s.world.2 = calls ++ [call]

theorem ceasing_of_step {d : Dispatch σ} {calls : List Call} {stopping : Prop} {event : Event}
    {s t : Session (σ × List Call)} (hs : Ceasing calls stopping s.stream)
    (h : d.recording.step? event s = some t) : Ceasing calls stopping t.stream := by
  obtain ⟨hclosed, hwatchful, hcalls⟩ := hs
  by_cases hevent : event = .work
  · subst hevent
    obtain ⟨u, hu, rfl⟩ := Option.map_eq_some_iff.1 h
    have hrule := produces_of_produce hu
    refine ⟨(flags_of_produces hrule).1.trans hclosed, watchful_of_produces hrule hwatchful, ?_⟩
    have hstays := stopping_of_produces hrule hclosed
    rcases hcalls with ⟨hsame, hstop⟩ | ⟨hnot, hstop, call, hcall⟩
    · by_cases hstopping : stopping
      · obtain ⟨hstop', hworld⟩ := hstays (hstop hstopping)
        exact .inl ⟨by rw [hworld, hsame], fun _ => hstop'⟩
      · rcases calls_of_produces hrule hwatchful with hworld | ⟨hstop', call, hworld⟩
        · exact .inl ⟨by rw [hworld, hsame], fun h => absurd h hstopping⟩
        · exact .inr ⟨hstopping, hstop', call, by rw [hworld, hsame]⟩
    · obtain ⟨hstop', hworld⟩ := hstays hstop
      exact .inr ⟨hnot, hstop', call, by rw [hworld, hcall]⟩
  · obtain ⟨hworld, hclosed', hstop', hwatchful'⟩ := frame_of_step hevent h
    refine ⟨hclosed' hclosed, hwatchful' hwatchful, ?_⟩
    rw [hworld]
    rcases hcalls with ⟨hsame, hstop⟩ | ⟨hnot, hstop, hcall⟩
    · exact .inl ⟨hsame, hstop' ∘ hstop⟩
    · exact .inr ⟨hnot, hstop' hstop, hcall⟩

/-- **At most one call comes after closing.** Once the stream has been closed or dropped or an error
has been taken, the service is called no more, in whatever order the steps come; unless the stream
was closed while a row was being pulled or the query for the pulled rows was about to be sent, when
that one query may still be sent.

**Proof sketch.** A producer that stops goes on to do so (`stopping_of_produces`), and after each
call it stops (`calls_of_produces`), since it looks between its calls (`watchful_play`). -/
theorem stream_calls_after_close (d : Dispatch σ) (source : List Item) (w : σ)
    (events later : List Event) (s t : Session (σ × List Call))
    (hs : d.recording.play events (.start source (w, [])) = some s)
    (hclosed : s.stream.closed = true) (ht : d.recording.play later s = some t) :
    t.stream.world.2 = s.stream.world.2 ∨
      (∃ call, t.stream.world.2 = s.stream.world.2 ++ [call]) ∧ (∀ e, .error e ∉ s.delivered) ∧
        ((∃ batch, s.stream.phase = .filling batch) ∨ ∃ e, s.stream.phase = .evaluating e) := by
  have hceasing : Ceasing s.stream.world.2 (Stopping s.stream) t.stream :=
    play_induction (motive := fun t => Ceasing s.stream.world.2 (Stopping s.stream) t.stream)
      (fun _ => True) (fun _ _ _ _ hs hstep => ceasing_of_step hs hstep) (fun _ _ => trivial)
      ⟨hclosed, watchful_play hs, .inl ⟨rfl, id⟩⟩ ht
  rcases hceasing.calls with ⟨hsame, _⟩ | ⟨hnot, _, hcall⟩
  · exact .inl hsame
  · refine .inr ⟨hcall, fun e he => hnot ?_, ?_⟩
    · rcases halted_of_error_delivered hs ⟨e, he⟩ with hp | hp <;> simp [Stopping, hp]
    · have hattentive := watchful_play hs
      cases hp : s.stream.phase with
      | filling batch => exact .inl ⟨batch, rfl⟩
      | evaluating e => exact .inr ⟨e, rfl⟩
      | awaiting left e =>
        simp only [Watchful, Stopping, hp] at hattentive hnot
        exact absurd hattentive.quiet hnot
      | _ => simp [Stopping, hp] at hnot

/-- A stream that is closed while its first row is being pulled still sends the query for that
row. -/
theorem call_after_close :
    ∃ s t : Session (Unit × List Call),
      echoing.recording.play [.work, .close] (.start [.ok .empty] ((), [])) = some s ∧
      s.stream.closed = true ∧ s.stream.world.2 = [] ∧
      echoing.recording.play [.work, .work, .work] s = some t ∧ t.stream.world.2 ≠ [] := by
  refine ⟨_, _, rfl, rfl, rfl, rfl, ?_⟩
  decide

/-- After that query it ends without another one, although there is a second row. -/
theorem one_call_after_close :
    ∃ s t : Session (Unit × List Call),
      echoing.recording.play [.work, .close] (.start [.ok .empty, .ok .empty] ((), [])) = some s ∧
      s.stream.closed = true ∧ echoing.recording.play (List.replicate 8 .work) s = some t ∧
      ∃ call, t.stream.world.2 = s.stream.world.2 ++ [call] := by
  have hcalls : ((echoing.recording.play (.work :: .close :: List.replicate 8 .work)
      (.start [.ok .empty, .ok .empty] ((), []))).any fun t => t.stream.world.2 != []) = true := by
    decide +kernel
  obtain ⟨t, hplay, hcalls⟩ := (Option.any_eq_true _ _).1 hcalls
  obtain ⟨s, hs, ht⟩ := Option.bind_eq_some_iff.1
    ((echoing.recording.play_append [.work, .close] (List.replicate 8 .work) _).symm.trans hplay)
  obtain rfl := Option.some.inj hs
  refine ⟨_, t, rfl, rfl, ht, ?_⟩
  rcases stream_calls_after_close echoing [.ok .empty, .ok .empty] () [.work, .close] _ _ t rfl rfl
    ht with hsame | ⟨hcall, _⟩
  · rw [hsame] at hcalls
    exact absurd hcalls (by decide)
  · exact hcall

end Dispatch

end ServiceClause
