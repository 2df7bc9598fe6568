import ServiceClause.Proofs.Batch.Silent
import ServiceClause.Proofs.Stream.Runs

/-!
# Streams of a silent clause

The consumer of a silent clause sees no failure but a malformed query, the reserved row index and
the failure of the source itself. A malformed query does reach it, and if every call fails in
another way, it gets the rows of the source.

## Main statements

* `ServiceClause.Dispatch.stream_silent_policy` — what a silent clause hides and what it does not.
-/

set_option autoImplicit false

namespace ServiceClause

section

variable {flag : Bool → Prop} {d : Descriptor} {config : Config} {ending items : List Item}
  {blocks : List (List Row)} {log : List Exchange}

/-- What blocks of a silent clause give is followed by the ending, if at all. -/
theorem errors_of_streamRun (hsilent : d.silent = true)
    (h : StreamRun flag d config ending blocks log items) :
    ∃ evaluated, items <+: evaluated ++ ending ∧ ∀ e, .error e ∈ evaluated →
      e.isMalformed = true ∨
        config.rowIndex ∈ d.declared ∧ e = .reservedRowIndex d.endpoint config.rowIndex := by
  have hblock : ∀ {block log outcome}, BatchRun flag d config block log outcome →
      ∀ e, .error e ∈ outcomeItems outcome → e.isMalformed = true ∨
        config.rowIndex ∈ d.declared ∧ e = .reservedRowIndex d.endpoint config.rowIndex := by
    intro block log outcome hblock e he
    rcases errors_of_batchRun hsilent hblock he with hmalformed | ⟨_, hreserved⟩
    · exact .inl hmalformed
    · exact .inr hreserved
  induction h with
  | finished => exact ⟨[], List.prefix_rfl, by simp⟩
  | @stopped block rest log outcome e hrun herror =>
    exact ⟨throughError (outcomeItems outcome), List.prefix_append _ _,
      fun e he => hblock hrun e ((prefix_throughError _).mem he)⟩
  | @passed block rest log later outcome items hrun hrows hrest ih =>
    obtain ⟨evaluated, hprefix, herrors⟩ := ih
    refine ⟨outcomeItems outcome ++ evaluated, ?_, ?_⟩
    · rw [List.append_assoc]
      exact (List.prefix_append_right_inj _).2 hprefix
    · intro e he
      rcases List.mem_append.1 he with he | he
      · exact hblock hrun e he
      · exact herrors e he

/-- A malformed query among the exchanges is what a silent clause ends with. -/
theorem malformed_of_streamRun (hsilent : d.silent = true)
    (h : StreamRun flag d config ending blocks log items) {x : Exchange} (hx : x ∈ log)
    {e : FederationError} (herror : x.error? = some e) (he : e.isMalformed = true) :
    ∃ before f, items = before ++ [.error f] ∧ f.isMalformed = true := by
  induction h with
  | finished => simp at hx
  | stopped hrun hfirst =>
    obtain ⟨f, hf, hmalformed⟩ := malformed_of_batchRun hsilent hrun hx herror he
    exact ⟨_, f, throughError_eq_append hf, hmalformed⟩
  | passed hrun hrows hrest ih =>
    rcases List.mem_append.1 hx with hx | hx
    · obtain ⟨f, hf, _⟩ := malformed_of_batchRun hsilent hrun hx herror he
      rw [hrows] at hf
      simp at hf
    · obtain ⟨before, f, rfl, hmalformed⟩ := ih hx
      exact ⟨_ ++ before, f, (List.append_assoc _ _ _).symm, hmalformed⟩

/-- Where every call fails, a silent clause gives its rows. -/
theorem items_of_streamRun (hsilent : d.silent = true) (hflag : ¬ flag true)
    (hindex : config.rowIndex ∉ d.declared) (hpatterns : d.HasPatterns config.rowIndex)
    (h : StreamRun flag d config ending blocks log items)
    (hfail : ∀ x ∈ log, ∃ e, x.error? = some e ∧ e.isMalformed = false) :
    items = blocks.flatten.map .ok ++ ending := by
  induction h with
  | finished => rfl
  | @stopped block rest log outcome e hrun hfirst =>
    rw [items_of_batchRun hsilent hflag hindex hpatterns hrun hfail] at hfirst
    have hnone := firstError?_append block []
    rw [List.append_nil] at hnone
    rw [hnone] at hfirst
    simp [firstError?] at hfirst
  | passed hrun hrows hrest ih =>
    have hlog := fun x hx => hfail x (List.mem_append_left _ hx)
    have hlater := fun x hx => hfail x (List.mem_append_right _ hx)
    rw [items_of_batchRun hsilent hflag hindex hpatterns hrun hlog, ih hlater, List.flatten_cons,
      List.map_append, List.append_assoc]

end

namespace Dispatch

variable {σ : Type}

/-- **What a silent clause hides and what it does not.** Whatever the consumer does, the only errors
that reach it are malformed queries, the reserved row index and, after everything else, the failure
of the source. If a call is answered by a malformed query, a consumer that reads to the end gets a
malformed query as its last item. If the source does not fail and every call fails in another way,
it gets exactly the rows of the source.

**Proof sketch.** What is delivered is the beginning of the reference (`faithful_play`), and all of
it at the end (`streamRun_of_ended`). The reference is put together from the transcripts of its
blocks, of which the three statements are known (`errors_of_batchRun`, `malformed_of_batchRun`,
`items_of_batchRun`). -/
theorem stream_silent_policy (d : Dispatch σ) (hsilent : d.clause.silent = true)
    (source : List Item) (w : σ) :
    (∀ events session, d.play events (.start source w) = some session →
      ∃ evaluated, session.delivered <+: evaluated ++ ((firstError? source).map .error).toList ∧
        ∀ e, .error e ∈ evaluated → e.isMalformed = true ∨
          d.config.rowIndex ∈ d.clause.declared ∧
            e = .reservedRowIndex d.clause.endpoint d.config.rowIndex) ∧
    ∀ events session, (∀ event ∈ events, event.isReading = true) →
      d.transcribing.play events (.start source (w, [])) = some session →
      session.stream.ended = true →
      ((∃ x ∈ session.stream.world.2, ∃ e, x.error? = some e ∧ e.isMalformed = true) →
        ∃ items e, session.delivered = items ++ [.error e] ∧ e.isMalformed = true) ∧
      (firstError? source = none → d.config.rowIndex ∉ d.clause.declared →
        d.clause.HasPatterns d.config.rowIndex →
        (∀ x ∈ session.stream.world.2, ∃ e, x.error? = some e ∧ e.isMalformed = false) →
        session.delivered = source) := by
  have hending : ((firstError? source).map .error).toList = ending source := by
    unfold ending
    cases firstError? source <;> rfl
  refine ⟨?_, ?_⟩
  · intro events session hplay
    have hdelivered := (faithful_play hplay).delivered
    obtain ⟨evaluated, hprefix, herrors⟩ :=
      errors_of_streamRun hsilent (d.streamRun_of_reference source w).1
    rw [hending]
    exact ⟨evaluated, hdelivered.trans hprefix, herrors⟩
  · intro events session hevents hplay hended
    obtain ⟨hrun, _⟩ := d.streamRun_of_ended hevents hplay hended
    refine ⟨?_, ?_⟩
    · rintro ⟨x, hx, e, herror, he⟩
      exact malformed_of_streamRun hsilent hrun hx herror he
    · intro hsource hindex hpatterns hfail
      have hitems := items_of_streamRun hsilent (by simp) hindex hpatterns hrun hfail
      have hblocks : d.blocks source = batches d.config.blockSize (rowsBeforeError source) := by
        unfold blocks
        rw [hsource]
      rw [hitems, hblocks, flatten_batches, ← hending, hsource, ← eq_map_of_firstError hsource]
      simp

/-- A silent clause whose endpoint answers every call with the error `e`. -/
def failing (e : FederationError) : Dispatch Unit where
  config := {}
  clause := ⟨"http://example.org/", NameSet.ofList ["x"], true, none,
    fun _ => "SELECT * WHERE \x7b ?s ?p ?x \x7d"⟩
  service := ⟨fun _ w => (.now (.error e), w), fun _ w => (.now (.error e), w)⟩

/-- An endpoint that refuses every call leaves the row of the source as it is, and one that finds
every query malformed says so. -/
theorem failing_delivers :
    (∃ session, (failing (.connection "refused")).transcribing.play
        (List.replicate 12 .work ++ [.next, .next]) (.start [.ok .empty] ((), [])) = some session ∧
      session.delivered = [.ok .empty]) ∧
    ∃ session, (failing (.malformedQuery "no such form")).transcribing.play
        (List.replicate 8 .work ++ [.next]) (.start [.ok .empty] ((), [])) = some session ∧
      ∃ items e, session.delivered = items ++ [.error e] ∧ e.isMalformed = true := by
  have hpattern : HasPattern "SELECT * WHERE \x7b ?s ?p ?x \x7d" := by decide +kernel
  refine ⟨?_, ?_⟩
  · have hend : ((failing (.connection "refused")).transcribing.play
        (List.replicate 12 .work ++ [.next, .next]) (.start [.ok .empty] ((), []))).any
          (·.stream.ended) = true := by decide +kernel
    obtain ⟨session, hplay, hended⟩ := (Option.any_eq_true _ _).1 hend
    have hevents : ∀ event ∈ List.replicate 12 Event.work ++ [.next, .next],
        event.isReading = true := by decide
    have hpolicy := (stream_silent_policy (failing (.connection "refused")) rfl
      [.ok .empty] ()).2 _ session hevents hplay hended
    refine ⟨session, hplay, hpolicy.2 rfl (by decide) (fun _ => ⟨hpattern, hpattern⟩) ?_⟩
    intro x hx
    have hanswer := (streamRun_of_ended _ hevents hplay hended).2 x hx
    cases x with
    | rows call answer =>
      obtain ⟨_, rfl⟩ := hanswer
      cases call.budget? <;> exact ⟨_, rfl, rfl⟩
    | truth call answer =>
      obtain ⟨_, rfl⟩ := hanswer
      cases call.budget? <;> exact ⟨_, rfl, rfl⟩
  · have hend : ((failing (.malformedQuery "no such form")).transcribing.play
        (List.replicate 8 .work ++ [.next]) (.start [.ok .empty] ((), []))).any
          (fun s => s.stream.ended && s.stream.world.2.any fun x =>
            x.error?.any (·.isMalformed)) = true := by decide +kernel
    obtain ⟨session, hplay, hend⟩ := (Option.any_eq_true _ _).1 hend
    obtain ⟨hended, hany⟩ := Bool.and_eq_true_iff.1 hend
    obtain ⟨x, hx, hmalformed⟩ := List.any_eq_true.1 hany
    obtain ⟨e, he, hmalformed⟩ := (Option.any_eq_true _ _).1 hmalformed
    have hpolicy := (stream_silent_policy (failing (.malformedQuery "no such form")) rfl
      [.ok .empty] ()).2 _ session (by decide) hplay hended
    exact ⟨session, hplay, hpolicy.1 ⟨x, hx, e, he, hmalformed⟩⟩

end Dispatch

end ServiceClause
