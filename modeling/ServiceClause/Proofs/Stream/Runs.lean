import ServiceClause.Proofs.Batch.Runs
import ServiceClause.Proofs.Stream.Delivery

/-!
# What a stream can do

A stream evaluates its blocks one after another until one of them gives an error. The transcript of
a stream that is read to its end is therefore put together from transcripts of its blocks, and what
it delivers from what they give.

## Main definitions

* `ServiceClause.StreamRun` — what a stream may exchange and deliver, block by block.
* `ServiceClause.Dispatch.transcribing` — a dispatch whose service remembers its exchanges.

## Main statements

* `ServiceClause.Dispatch.streamRun_of_reference` — the reference is of this kind.
* `ServiceClause.Dispatch.streamRun_of_ended` — and so is a stream that is read to its end.
-/

set_option autoImplicit false

namespace ServiceClause

/-- What a stream may exchange and deliver, block by block; `ending` is what it delivers after the
last block. -/
inductive StreamRun (flag : Bool → Prop) (d : Descriptor) (config : Config) (ending : List Item) :
    List (List Row) → List Exchange → List Item → Prop where
  /-- No block is left. -/
  | finished : StreamRun flag d config ending [] [] ending
  /-- The first block gives an error, which ends the stream. -/
  | stopped {block : List Row} {rest : List (List Row)} {log : List Exchange}
    {outcome : Outcome RowSequence} {e : FederationError}
    (hblock : BatchRun flag d config block log outcome)
    (herror : firstError? (outcomeItems outcome) = some e) :
    StreamRun flag d config ending (block :: rest) log (throughError (outcomeItems outcome))
  /-- The first block gives rows. -/
  | passed {block : List Row} {rest : List (List Row)} {log later : List Exchange}
    {outcome : Outcome RowSequence} {items : List Item}
    (hblock : BatchRun flag d config block log outcome)
    (hrows : firstError? (outcomeItems outcome) = none)
    (hrest : StreamRun flag d config ending rest later items) :
    StreamRun flag d config ending (block :: rest) (log ++ later) (outcomeItems outcome ++ items)

theorem outcomeThen_eq_resultsThen {σ : Type} (next : σ → List Item × σ)
    (outcome : Outcome RowSequence) (w : σ) :
    outcomeThen next (outcome, w) = resultsThen next (outcomeItems outcome) w := by
  cases outcome with
  | error e => exact (resultsThen_cons_error next e [] w).symm
  | ok rows => rfl

namespace Dispatch

variable {σ : Type}

/-- The same dispatch with a service that remembers its exchanges. -/
def transcribing (d : Dispatch σ) : Dispatch (σ × List Exchange) :=
  d.withService d.service.transcribing

/-- What a service remembers of the blocks of a stream is put together from what it remembers of
each of them.

**Proof sketch.** Induction on the blocks. The first one comes with a transcript
(`Evaluation.trace_run`); if there is an error among its items, nothing comes after it. -/
theorem streamRun_of_deliver (d : Dispatch σ) (ending : List Item) (blocks : List (List Row)) (w : σ)
    (old : List Exchange) :
    ∃ log, (d.transcribing.deliver ending blocks (w, old)).2.2 = old ++ log ∧
      StreamRun (· = false) d.clause d.config ending blocks log
        (d.transcribing.deliver ending blocks (w, old)).1 ∧
      ∀ x ∈ log, x.IsAnswerOf d.service := by
  induction blocks generalizing w old with
  | nil =>
    rw [deliver]
    exact ⟨[], by simp, .finished, by simp⟩
  | cons block rest ih =>
    obtain ⟨log, hlog, htrace, hanswers⟩ := Evaluation.trace_run d.service (· = false)
      (fun _ => false) (fun _ => rfl) (evaluateBatch d.config d.clause block) w old
    cases hrun : (d.transcribing.evaluation block).runToEnd d.transcribing.service (w, old) with
    | mk outcome world =>
      obtain ⟨w', memory⟩ := world
      have hevaluated : (evaluateBatch d.config d.clause block).run d.service.transcribing
          (fun _ => false) (w, old) = (outcome, w', memory) := hrun
      rw [hevaluated] at hlog htrace
      obtain rfl : memory = old ++ log := hlog
      have hblock := batchRun_of_trace htrace
      rw [deliver_cons, hrun, outcomeThen_eq_resultsThen]
      unfold resultsThen
      cases herror : firstError? (outcomeItems outcome) with
      | some e =>
        rw [if_pos (by rfl)]
        exact ⟨log, rfl, .stopped hblock herror, hanswers⟩
      | none =>
        obtain ⟨later, hlater, hrest, hanswers'⟩ := ih w' (old ++ log)
        rw [if_neg (by simp)]
        refine ⟨log ++ later, ?_, .passed hblock herror hrest, ?_⟩
        · rw [← List.append_assoc]
          exact hlater
        · intro x hx
          rcases List.mem_append.1 hx with hx | hx
          · exact hanswers x hx
          · exact hanswers' x hx

/-- The reference is put together from transcripts of its blocks. -/
theorem streamRun_of_reference (d : Dispatch σ) (source : List Item) (w : σ) :
    StreamRun (· = false) d.clause d.config (ending source) (d.blocks source)
        (d.transcribing.reference source (w, [])).2.2 (d.reference source w).1 ∧
      ∀ x ∈ (d.transcribing.reference source (w, [])).2.2, x.IsAnswerOf d.service := by
  have hitems : (d.reference source w).1 = (d.transcribing.reference source (w, [])).1 := by
    have hrefines := d.reference_of_refines d.service.transcribing_refines source (w, [])
    rw [hrefines]
    rfl
  obtain ⟨log, hlog, hrun, hanswers⟩ :=
    d.streamRun_of_deliver (ending source) (d.blocks source) w []
  rw [hitems, reference_eq_deliver]
  rw [List.nil_append] at hlog
  have hblocks : d.transcribing.blocks source = d.blocks source := rfl
  rw [hblocks, hlog]
  exact ⟨hrun, hanswers⟩

/-- What has been delivered by a stream that is read to its end, and what its service remembers, is
put together from transcripts of the blocks. -/
theorem streamRun_of_ended (d : Dispatch σ) {source : List Item} {w : σ} {events : List Event}
    {s : Session (σ × List Exchange)} (hevents : ∀ event ∈ events, event.isReading = true)
    (h : d.transcribing.play events (.start source (w, [])) = some s)
    (hended : s.stream.ended = true) :
    StreamRun (· = false) d.clause d.config (ending source) (d.blocks source) s.stream.world.2
        s.delivered ∧ ∀ x ∈ s.stream.world.2, x.IsAnswerOf d.service := by
  obtain ⟨hdelivered, hworld⟩ := delivered_of_ended hevents h hended
  have hrefines := d.reference_of_refines d.service.transcribing_refines source (w, [])
  have hitems : s.delivered = (d.reference source w).1 := by
    rw [hdelivered, hrefines]
    rfl
  rw [hitems, hworld]
  exact d.streamRun_of_reference source w

end Dispatch

end ServiceClause
