import ServiceClause.Proofs.Batch.Silencing
import ServiceClause.Proofs.Stream.Acceptance
import ServiceClause.Proofs.Stream.Runs

/-!
# Streams of a clause and of the same clause made silent

Two streams of the same source are compared, one of a clause that reports failures and one of the
same clause made silent. Until something fails they cannot be told apart, and what fails in either
of them for a reason that is never hidden fails in both.

## Main definitions

* `ServiceClause.Dispatch.withSilent` — the same dispatch with the clause silent or not.

## Main statements

* `ServiceClause.Dispatch.silenced_deliver` — block by block.
* `ServiceClause.Dispatch.stream_silenced` — whole streams, in whatever order their steps come.
-/

set_option autoImplicit false

namespace ServiceClause

namespace Dispatch

variable {σ : Type}

/-- The same dispatch with the clause silent or not. -/
def withSilent (d : Dispatch σ) (silent : Bool) : Dispatch σ :=
  { d with clause := d.clause.withSilent silent }

/-- What the blocks of a clause and of the same clause made silent deliver.

**Proof sketch.** Induction on the blocks. If the first one gives no error, both go on in the same
state of the endpoint. -/
theorem silenced_deliver (d : Dispatch σ) (ending : List Item) (blocks : List (List Row)) (w : σ) :
    Silenced ((d.withSilent false).deliver ending blocks w)
      ((d.withSilent true).deliver ending blocks w) := by
  induction blocks generalizing w with
  | nil =>
    rw [deliver, deliver]
    exact .refl _
  | cons block rest ih =>
    have hblock := silenced_evaluateBatch d.service d.config d.clause block w
    have hboth := silenced_resultsThen ih hblock
    rw [deliver_cons, deliver_cons]
    rwa [runItems, runItems, ← outcomeThen_eq_resultsThen, ← outcomeThen_eq_resultsThen] at hboth

/-- A source that has failed delivers the same to both.

**Proof sketch.** Its blocks give no error where failures are reported, so they give the same where
they are hidden, and the failure comes after them. -/
theorem reference_eq_of_failure (d : Dispatch σ) {source : List Item} {w : σ}
    (h : firstError? ((d.withSilent false).deliver [] (d.blocks source) w).1 = none) :
    (d.withSilent true).reference source w = (d.withSilent false).reference source w := by
  have hsame := (d.silenced_deliver [] (d.blocks source) w).eq_of_none h
  have hreference : ∀ silent,
      firstError? ((d.withSilent silent).deliver [] (d.blocks source) w).1 = none →
        (d.withSilent silent).reference source w =
          (((d.withSilent silent).deliver [] (d.blocks source) w).1 ++ ending source,
            ((d.withSilent silent).deliver [] (d.blocks source) w).2) := by
    intro silent hnone
    have hblocks : (d.withSilent silent).blocks source = d.blocks source ++ [] :=
      (List.append_nil _).symm
    rw [reference_eq_deliver, hblocks, deliver_append _ _ _ hnone, deliver]
  rw [hreference false h, hreference true (hsame ▸ h), hsame]

/-- A clause that declares the row index delivers the same, silent or not. -/
theorem reference_eq_of_reserved (d : Dispatch σ) (h : d.config.rowIndex ∈ d.clause.declared)
    (source : List Item) (w : σ) :
    (d.withSilent true).reference source w = (d.withSilent false).reference source w := by
  rw [reference_eq_deliver, reference_eq_deliver]
  show (d.withSilent true).deliver (ending source) (d.blocks source) w =
    (d.withSilent false).deliver (ending source) (d.blocks source) w
  induction d.blocks source generalizing w with
  | nil => rw [deliver, deliver]
  | cons block rest ih =>
    have hblock : (d.withSilent true).evaluation block = (d.withSilent false).evaluation block :=
      (evaluateBatch_withSilent_of_reserved h block).symm
    have hrest : (d.withSilent true).deliver (ending source) rest =
        (d.withSilent false).deliver (ending source) rest := funext ih
    rw [deliver_cons, deliver_cons, hblock, hrest]
    rfl

/-- **Silencing is invisible until something fails.** A clause and the same clause made silent are
each read to the end, in whatever order the steps come. If the first reader gets no error, the
second one gets the same items, and the calls are the same. If the first reader gets rows and then
an error, the second one gets these rows first; and it gets the same items, with the error, if the
query was malformed, the source has failed, or the clause declares the row index.

**Proof sketch.** Both readers get the reference (`delivered_of_ended`), and the references differ
in no other way (`silenced_deliver`). A source that has failed has done so after all of its blocks
(`firstError?_deliver_of_failure`). -/
theorem stream_silenced (d : Dispatch σ) (source : List Item) (w : σ)
    (events silentEvents : List Event) (s t : Session (σ × List Call))
    (hevents : ∀ event ∈ events, event.isReading = true)
    (hsilentEvents : ∀ event ∈ silentEvents, event.isReading = true)
    (hs : (d.withSilent false).recording.play events (.start source (w, [])) = some s)
    (ht : (d.withSilent true).recording.play silentEvents (.start source (w, [])) = some t)
    (hsEnded : s.stream.ended = true) (htEnded : t.stream.ended = true) :
    ((∀ e, .error e ∉ s.delivered) →
      t.delivered = s.delivered ∧ t.stream.world = s.stream.world) ∧
    ∀ items e, s.delivered = items ++ [.error e] →
      items <+: t.delivered ∧
      (e.isMalformed = true ∨
        .error e ∈ source.take s.stream.source.pulled ∨
        d.config.rowIndex ∈ d.clause.declared ∧
          e = .reservedRowIndex d.clause.endpoint d.config.rowIndex →
        t.delivered = s.delivered) := by
  obtain ⟨hsDelivered, hsWorld⟩ := delivered_of_ended hevents hs hsEnded
  obtain ⟨htDelivered, htWorld⟩ := delivered_of_ended hsilentEvents ht htEnded
  have hsilenced : Silenced ((d.withSilent false).recording.reference source (w, []))
      ((d.withSilent true).recording.reference source (w, [])) := by
    rw [reference_eq_deliver, reference_eq_deliver]
    exact d.recording.silenced_deliver (ending source) (d.blocks source) (w, [])
  refine ⟨fun hrows => ?_, fun items e hitems => ?_⟩
  · have hnone : firstError? s.delivered = none := by
      cases herror : firstError? s.delivered with
      | none => rfl
      | some e => exact absurd (mem_of_firstError herror) (hrows e)
    have hsame := hsilenced.eq_of_none (hsDelivered ▸ hnone)
    exact ⟨by rw [htDelivered, hsame, hsDelivered], by rw [htWorld, hsame, hsWorld]⟩
  · have hlast : throughError s.delivered = s.delivered := by
      rw [hsDelivered]
      exact throughError_reference _ source (w, [])
    obtain ⟨rows, rfl, herror⟩ := rows_of_last_error hlast hitems
    refine ⟨?_, ?_⟩
    · rw [htDelivered]
      exact hsilenced.rows_prefix (hsDelivered ▸ hitems)
    · rintro (hmalformed | hfailure | ⟨hreserved, _⟩)
      · have hboth := hsilenced.throughError_eq (hsDelivered ▸ herror) hmalformed
        rwa [throughError_reference, throughError_reference, ← htDelivered, ← hsDelivered] at hboth
      · have hsame := d.recording.reference_eq_of_failure
          (firstError?_deliver_of_failure hs ⟨e, hfailure⟩)
        rw [htDelivered, hsDelivered]
        exact congrArg Prod.fst hsame
      · have hsame := d.recording.reference_eq_of_reserved hreserved source (w, [])
        rw [htDelivered, hsDelivered]
        exact congrArg Prod.fst hsame

/-- A clause whose endpoint refuses two rows together, answers for each of them with one row, and
cannot be reached afterwards. -/
def faltering : Dispatch Nat where
  config := { rowsPerBatch := 2 }
  clause := ⟨"http://example.org/", .empty, false, none, fun _ => "SELECT * WHERE \x7b \x7d"⟩
  service :=
    ⟨fun _ n => (.now (match n with
      | 0 => .error (.queryExecution "too many rows")
      | 1 | 2 => .ok (.ofRows [] [.empty])
      | _ => .error (.connection "refused")), n + 1),
    fun _ n => (.now (.ok true), n + 1)⟩

/-- Whether a stream has delivered two rows and then an error, as `faltering` does where failures
are reported. -/
def twoThenError : List Item → Bool
  | [.ok _, .ok _, .error _] => true
  | _ => false

/-- The rows that are delivered before the endpoint cannot be reached any more are also delivered
where that is hidden. -/
theorem faltering_silenced :
    ∃ s t : Session (Nat × List Call),
      (faltering.withSilent false).recording.play
        (List.replicate 25 .work ++ [.next, .next, .next])
        (.start [.ok .empty, .ok .empty, .ok .empty] (0, [])) = some s ∧
      (faltering.withSilent true).recording.play
        (List.replicate 30 .work ++ [.next, .next, .next, .next])
        (.start [.ok .empty, .ok .empty, .ok .empty] (0, [])) = some t ∧
      ∃ items e, s.delivered = items ++ [.error e] ∧ items.length = 2 ∧ items <+: t.delivered := by
  have hreports : ((faltering.withSilent false).recording.play
      (List.replicate 25 .work ++ [.next, .next, .next])
      (.start [.ok .empty, .ok .empty, .ok .empty] (0, []))).any (fun s => s.stream.ended &&
        twoThenError s.delivered) = true := by decide +kernel
  have hhides : ((faltering.withSilent true).recording.play
      (List.replicate 30 .work ++ [.next, .next, .next, .next])
      (.start [.ok .empty, .ok .empty, .ok .empty] (0, []))).any (·.stream.ended) = true := by
    decide +kernel
  obtain ⟨s, hs, hend⟩ := (Option.any_eq_true _ _).1 hreports
  obtain ⟨t, ht, htEnded⟩ := (Option.any_eq_true _ _).1 hhides
  obtain ⟨hsEnded, hitems⟩ := Bool.and_eq_true_iff.1 hend
  unfold twoThenError at hitems
  split at hitems
  · next first second e hdelivered =>
    have hboth := stream_silenced faltering [.ok .empty, .ok .empty, .ok .empty] 0 _ _ s t
      (by decide) (by decide) hs ht hsEnded htEnded
    exact ⟨s, t, hs, ht, [.ok first, .ok second], e, hdelivered, rfl,
      (hboth.2 [.ok first, .ok second] e hdelivered).1⟩
  · simp at hitems

end Dispatch

end ServiceClause
