import ServiceClause.Proofs.Batch.Runs
import ServiceClause.Proofs.Query.InlineRoundTrip
import ServiceClause.Proofs.Query.Sendable

/-!
# What a batch sends

The first row of a batch divides the variables that the clause declares: those that it leaves
unbound are selected, and the values of the others are sent. The query is rendered once. A single
row puts its values into it. Several rows send it with their values behind it, and only if that
fails in execution or comes too late they are sent one by one, each with its own values put into the
same query.

## Main definitions

* `ServiceClause.unboundNames` — the declared variables that the first row leaves unbound.
* `ServiceClause.rowCall?` — the call for one row.
* `ServiceClause.SendsBlankNode` — a batch one of whose values cannot be written down.
* `ServiceClause.Sends` — what a batch may exchange.
* `ServiceClause.renderedSets`, `ServiceClause.RendersOnce` — what a batch has rendered.

## Main statements

* `ServiceClause.RetryRun.exists_calls` — what a retry sends.
* `ServiceClause.BatchRun.sends` — what a transcript of a batch holds.
* `ServiceClause.exists_togetherText_error_iff` — when there is no text for all rows together.
* `ServiceClause.batchCourse_render` — nothing but the course of a batch comes by a text.
* `ServiceClause.rendered_batchCourse` — the query is rendered once.
* `ServiceClause.evaluateBatch_sends` — what a batch sends.
-/

set_option autoImplicit false

namespace ServiceClause

/-- The declared variables that the first row of a batch leaves unbound. -/
def unboundNames (d : Descriptor) (batch : List Row) : NameSet :=
  d.projection (batch.headD .empty).nameSet

/-- The call for one row, unless its values cannot be put into the query. It has no budget. -/
def rowCall? (d : Descriptor) (query : String) (row : Row) : Option Call :=
  (preBind query row d.declared).toOption.map fun text => ⟨.select, text, d.base?, none⟩

/-- Whether some row has a blank node under one of the variables. -/
def SendsBlankNode (batch : List Row) (names : List Name) : Prop :=
  ∃ row ∈ batch, ∃ n ∈ names, ∃ label, row.get? n = some (.blankNode label)

/-- What a batch may exchange. -/
structure Sends (config : Config) (d : Descriptor) (batch : List Row) (log : List Exchange) :
    Prop where
  /-- Nothing is sent without rows, if the clause declares the row index, and if a blank node is
  among the values of several rows. -/
  quiet : (batch = [] ∨ config.rowIndex ∈ d.declared ∨
    2 ≤ batch.length ∧ SendsBlankNode batch (relevantNames batch d.declared)) → log = []
  /-- A single row sends its own call. -/
  single : ∀ row, batch = [row] → config.rowIndex ∉ d.declared →
    log.map Exchange.call = (rowCall? d (d.render (unboundNames d batch)) row).toList
  /-- Several rows send one call for all of them. Only if it fails in execution or takes too long,
  calls for rows at the head of the batch follow. -/
  together : 2 ≤ batch.length → config.rowIndex ∉ d.declared →
    ¬ SendsBlankNode batch (relevantNames batch d.declared) →
    ∃ values answer further,
      (if relevantNames batch d.declared = [] then values = ""
        else inlineData batch (relevantNames batch d.declared) config.rowIndex = .ok values) ∧
      log = .rows ⟨.select, d.render ((unboundNames d batch).insert config.rowIndex) ++ values,
        d.base?, some config.batchTimeout⟩ answer :: further ∧
      (further ≠ [] → (∃ detail, answer = .error (.queryExecution detail)) ∨
        ∃ budget, answer = .error (.timeout budget)) ∧
      ∃ k, further.map Exchange.call = (batch.take k).filterMap
        (rowCall? d (d.render ((unboundNames d batch).insert config.rowIndex)))
  /-- Every call names the base of the clause. -/
  base : ∀ x ∈ log, x.call.base? = d.base?

/-- The sets of variables for which a batch has its query rendered. -/
def renderedSets (config : Config) (d : Descriptor) (batch : List Row) : List NameSet :=
  if batch = [] ∨ config.rowIndex ∈ d.declared then []
  else if batch.length = 1 then [unboundNames d batch]
  else [(unboundNames d batch).insert config.rowIndex]

/-- A batch has its query rendered at most once while it is run. -/
structure RendersOnce {σ : Type} (config : Config) (d : Descriptor) (batch : List Row)
    (service : Service σ) (cancelled : σ → Bool) (w : σ) : Prop where
  /-- The batch comes by the text of a query only where its course has one rendered, whatever the
  renderer. -/
  course : ∀ render, evaluateBatch config { d with render := render } batch =
    (batchCourse config d batch).evaluation render
  /-- A run of the course that remembers what is rendered is a run of the batch. -/
  run : (((batchCourse config d batch).run d.render service cancelled (w, [])).1,
      ((batchCourse config d batch).run d.render service cancelled (w, [])).2.1) =
    (evaluateBatch config d batch).run service cancelled w
  /-- It has rendered what the batch asks for. -/
  rendered : ((batchCourse config d batch).run d.render service cancelled (w, [])).2.2 =
    renderedSets config d batch
  /-- This is one set of variables at most. -/
  once : ((batchCourse config d batch).run d.render service cancelled (w, [])).2.2.length ≤ 1

/-! ## Variables -/

section

variable {d : Descriptor} {batch : List Row} {n : Name}

theorem mem_unboundNames :
    n ∈ unboundNames d batch ↔ n ∈ d.declared ∧ n ∉ (batch.headD .empty).names := by
  rw [unboundNames, Descriptor.projection, NameSet.mem_diff, Row.mem_nameSet]

theorem mem_relevantNames :
    n ∈ relevantNames batch d.declared ↔ n ∈ d.declared ∧ n ∈ (batch.headD .empty).names := by
  cases batch with
  | nil => simp [relevantNames, Row.names, Row.empty]
  | cons row rest => simp [relevantNames, and_comm]

end

/-! ## Calls for single rows -/

section

variable {flag : Bool → Prop} {d : Descriptor} {query : String} {log : List Exchange}

theorem toList_rowCall? {row : Row} :
    (rowCall? d query row).toList = [row].filterMap (rowCall? d query) := by
  cases hcall : rowCall? d query row <;> simp [hcall]

theorem SelectRun.calls {row : Row} {outcome : Outcome RowSequence}
    (h : SelectRun query row d.base? d.declared log outcome) :
    log.map Exchange.call = (rowCall? d query row).toList := by
  cases h with
  | unbindable hbind => simp [rowCall?, hbind, Except.toOption]
  | sent hbind answer => simp [rowCall?, hbind, Except.toOption, Exchange.call]

/-- The call of a row and then those of `k` later ones are the calls of `k + 1` rows. -/
theorem SelectRun.calls_append {row : Row} {outcome : Outcome RowSequence}
    (h : SelectRun query row d.base? d.declared log outcome) {rest : List Row}
    {later : List Exchange} {k : Nat}
    (hlater : later.map Exchange.call = (rest.take k).filterMap (rowCall? d query)) :
    (log ++ later).map Exchange.call =
      ((row :: rest).take (k + 1)).filterMap (rowCall? d query) := by
  rw [List.map_append, h.calls, hlater, toList_rowCall?, List.take_succ_cons,
    ← List.filterMap_append, List.singleton_append]

/-- A retry sends the calls for the rows at the head of the batch, in their order.

**Proof sketch.** Induction on the retry. A row with which it goes on sends its call before those of
the later rows. -/
theorem RetryRun.exists_calls {rowIndex : Name} {rows : List Row} {parts : List RowSequence}
    (h : RetryRun flag d query rowIndex rows log parts) :
    ∃ k, log.map Exchange.call = (rows.take k).filterMap (rowCall? d query) := by
  induction h with
  | finished => exact ⟨0, rfl⟩
  | cancelled _ => exact ⟨0, rfl⟩
  | given _ hrow _ ih =>
    obtain ⟨k, hk⟩ := ih
    exact ⟨k + 1, hrow.calls_append hk⟩
  | hidden _ hrow _ _ ih =>
    obtain ⟨k, hk⟩ := ih
    exact ⟨k + 1, hrow.calls_append hk⟩
  | failed _ hrow _ => exact ⟨1, hrow.calls.trans toList_rowCall?⟩

end

/-! ## The call for all rows -/

section

variable {d : Descriptor} {config : Config} {batch : List Row}

/-- There is no text for all rows together exactly if one of the values is a blank node.

**Proof sketch.** The error of a text is that of a blank node (`batchText_eq_error`). Conversely a
blank node makes the inline data fail, which is part of the text as there is a variable to send. -/
theorem exists_togetherText_error_iff :
    (∃ e, togetherText d config batch = .error e) ↔
      SendsBlankNode batch (relevantNames batch d.declared) := by
  constructor
  · rintro ⟨e, he⟩
    obtain ⟨row, hrow, n, hn, label, hget, -⟩ := batchText_eq_error he
    exact ⟨row, hrow, n, hn, label, hget⟩
  · intro hblank
    obtain ⟨label, hfirst⟩ := InlineData.exists_first_blankNode_iff.2 hblank
    obtain ⟨-, -, n, hn, -⟩ := hblank
    have hdata : inlineData batch (relevantNames batch d.declared) config.rowIndex =
        .error (.blankNode label) :=
      InlineData.inlineData_eq_error_iff.2 (InlineData.tuples_eq_error_iff.2 ⟨label, hfirst, rfl⟩)
    have hne : (relevantNames batch d.declared).isEmpty = false := by
      simpa using List.ne_nil_of_mem hn
    refine ⟨.blankNode label, ?_⟩
    simp [togetherText, batchText, hne, hdata, Except.map]

/-- The text for all rows together is the query with the values of the rows behind it, if there is
one that is sent. -/
theorem exists_values_of_togetherText {text : String}
    (h : togetherText d config batch = .ok text) :
    ∃ values, text = togetherQuery d config batch ++ values ∧
      if relevantNames batch d.declared = [] then values = ""
      else inlineData batch (relevantNames batch d.declared) config.rowIndex = .ok values := by
  unfold togetherText batchText at h
  by_cases hempty : relevantNames batch d.declared = []
  · simp only [hempty, List.isEmpty_nil, if_true] at h
    refine ⟨"", ?_, by simp [hempty]⟩
    rw [← Except.ok.inj h, String.append_empty]
  · have hne : (relevantNames batch d.declared).isEmpty = false := by simpa using hempty
    simp only [hne, Bool.false_eq_true, if_false] at h
    cases hdata : inlineData batch (relevantNames batch d.declared) config.rowIndex with
    | error e => simp [hdata, Except.map] at h
    | ok values =>
      rw [hdata] at h
      exact ⟨values, (Except.ok.inj h).symm, by rw [if_neg hempty]⟩

end

/-! ## Rendering -/

section

variable (d : Descriptor) (render : NameSet → String)

/-- Once the query is known, a retry does not render any more. -/
theorem retryParts_render (query : String) (rowIndex : Name) (rows : List Row) :
    retryParts { d with render := render } query rowIndex rows =
      retryParts d query rowIndex rows := by
  induction rows with
  | nil => rfl
  | cons row rest ih =>
    rw [retryParts, retryParts, ih]
    rfl

/-- Once the query is known, several rows do not render any more. -/
theorem evaluateTogether_render (config : Config) (query : String) (batch : List Row) :
    evaluateTogether config { d with render := render } query batch =
      evaluateTogether config d query batch := by
  simp only [evaluateTogether, retry, retryParts_render]
  rfl

/-- The course of a batch does not depend on the renderer of the clause: a text is rendered where
the course asks for one, or not at all. -/
theorem batchCourse_render (config : Config) (batch : List Row) :
    batchCourse config { d with render := render } batch = batchCourse config d batch := by
  cases batch with
  | nil => rfl
  | cons first rest =>
    simp only [batchCourse, evaluateTogether_render]
    rfl

/-- **A batch renders its query once**, before its first call, and not for what follows.

**Proof sketch.** The cases are those of the definition: no row, a reserved row index, one row and
several rows. What comes after the text is an evaluation, in which nothing is rendered
(`Course.rendered_of`). -/
theorem rendered_batchCourse {σ : Type} (config : Config) (batch : List Row) (service : Service σ)
    (cancelled : σ → Bool) (w : σ) :
    ((batchCourse config d batch).run render service cancelled (w, [])).2.2 =
      renderedSets config d batch := by
  rcases batch with _ | ⟨first, rest⟩
  · rfl
  · by_cases hindex : config.rowIndex ∈ d.declared
    · rw [batchCourse_of_reserved hindex, Course.run, renderedSets, if_pos (.inr hindex)]
    · have hneither : ¬ (first :: rest = [] ∨ config.rowIndex ∈ d.declared) := by simp [hindex]
      rw [renderedSets, if_neg hneither]
      cases rest with
      | nil =>
        rw [batchCourse_single hindex, Course.run, Course.rendered_of]
        rfl
      | cons second rest =>
        rw [batchCourse_several hindex, Course.run, Course.rendered_of, if_neg (by simp)]
        rfl

theorem length_renderedSets_le (config : Config) (batch : List Row) :
    (renderedSets config d batch).length ≤ 1 := by
  unfold renderedSets
  split
  · exact Nat.zero_le _
  · split <;> exact Nat.le_refl _

theorem rendersOnce {σ : Type} (config : Config) (batch : List Row) (service : Service σ)
    (cancelled : σ → Bool) (w : σ) : RendersOnce config d batch service cancelled w where
  course render := congrArg (Course.evaluation render) (batchCourse_render d render config batch)
  run := Course.run_eq d.render service cancelled (batchCourse config d batch) w []
  rendered := rendered_batchCourse d d.render config batch service cancelled w
  once := by
    rw [rendered_batchCourse]
    exact length_renderedSets_le d config batch

end

/-! ## Main result -/

section

variable {flag : Bool → Prop} {config : Config} {d : Descriptor} {batch : List Row}
  {log : List Exchange} {outcome : Outcome RowSequence}

theorem rowCall?_base {query : String} {row : Row} {call : Call}
    (h : rowCall? d query row = some call) : call.base? = d.base? := by
  unfold rowCall? at h
  obtain ⟨text, -, rfl⟩ := Option.map_eq_some_iff.1 h
  rfl

/-- Calls for rows name the base of the clause. -/
theorem base_of_calls {query : String} {rows : List Row}
    (h : log.map Exchange.call = rows.filterMap (rowCall? d query)) :
    ∀ x ∈ log, x.call.base? = d.base? := by
  intro x hx
  have hcall : x.call ∈ rows.filterMap (rowCall? d query) := h ▸ List.mem_map_of_mem hx
  obtain ⟨row, -, hrow⟩ := List.mem_filterMap.1 hcall
  exact rowCall?_base hrow

theorem error_of_isRecoverable {e : FederationError} (h : e.isRecoverable = true) :
    (∃ detail, e = .queryExecution detail) ∨ ∃ budget, e = .timeout budget := by
  cases e with
  | queryExecution detail => exact .inl ⟨detail, rfl⟩
  | timeout budget => exact .inr ⟨budget, rfl⟩
  | _ => simp [FederationError.isRecoverable, FederationError.isQueryExecution] at h

/-- A batch may exchange nothing unless it is a row or several rows whose values can be written
down, and the clause does not declare the row index. -/
theorem sends_nil (hsingle : ∀ row, batch = [row] → config.rowIndex ∈ d.declared)
    (htogether : 2 ≤ batch.length → config.rowIndex ∉ d.declared →
      SendsBlankNode batch (relevantNames batch d.declared)) : Sends config d batch [] where
  quiet _ := rfl
  single row hrow hindex := absurd (hsingle row hrow) hindex
  together hlength hindex hblank := absurd (htogether hlength hindex) hblank
  base x hx := by cases hx

/-- A batch of one row sends what the row sends. -/
theorem sends_single {row : Row} (hindex : config.rowIndex ∉ d.declared)
    (hrow : SelectRun (d.render (d.projection row.nameSet)) row d.base? d.declared log outcome) :
    Sends config d [row] log where
  quiet h := by simp [hindex] at h
  single row' hrow' _ := by
    obtain rfl := List.singleton_inj.1 hrow'
    exact hrow.calls
  together h := by simp at h
  base := base_of_calls (hrow.calls.trans toList_rowCall?)

/-- A batch of several rows with a text sends the call for all of them and what follows it. -/
theorem sends_together {first second : Row} {rest : List Row} {text : String}
    (hindex : config.rowIndex ∉ d.declared)
    (htext : togetherText d config (first :: second :: rest) = .ok text)
    (answer : Outcome Solutions) {k : Nat}
    (hrows : log.map Exchange.call = ((first :: second :: rest).take k).filterMap
      (rowCall? d (togetherQuery d config (first :: second :: rest))))
    (hanswer : log ≠ [] → ∃ e, answer = .error e ∧ e.isRecoverable = true) :
    Sends config d (first :: second :: rest)
      (.rows (togetherCall d config text) answer :: log) where
  quiet h := by
    rcases h with h | h | ⟨-, hblank⟩
    · cases h
    · exact absurd h hindex
    · obtain ⟨e, he⟩ := exists_togetherText_error_iff.2 hblank
      rw [htext] at he
      cases he
  single row h := by cases h
  together _ _ _ := by
    obtain ⟨values, rfl, hvalues⟩ := exists_values_of_togetherText htext
    refine ⟨values, answer, log, hvalues, rfl, fun hne => ?_, k, hrows⟩
    obtain ⟨e, rfl, he⟩ := hanswer hne
    rcases error_of_isRecoverable he with ⟨detail, rfl⟩ | ⟨budget, rfl⟩
    · exact .inl ⟨detail, rfl⟩
    · exact .inr ⟨budget, rfl⟩
  base x hx := by
    rcases List.mem_cons.1 hx with rfl | hx
    · rfl
    · exact base_of_calls hrows x hx

/-- Every transcript of a batch is what a batch may exchange. -/
theorem BatchRun.sends (h : BatchRun flag d config batch log outcome) :
    Sends config d batch log := by
  cases h with
  | empty => exact sends_nil (fun _ h => by cases h) fun h => by simp at h
  | reserved hindex => exact sends_nil (fun _ _ => hindex) fun _ h => absurd hindex h
  | single hindex hrow => exact sends_single hindex hrow
  | singleFailed hindex hrow => exact sends_single hindex hrow
  | unsendable hindex htext =>
    exact sends_nil (fun _ h => by cases h) fun _ _ =>
      exists_togetherText_error_iff.1 ⟨_, htext⟩
  | answered hindex htext solutions =>
    exact sends_together hindex htext (.ok solutions) (rfl : _ = (List.take 0 _).filterMap _)
      fun h => absurd rfl h
  | failed hindex htext _ =>
    exact sends_together hindex htext (.error _) (rfl : _ = (List.take 0 _).filterMap _)
      fun h => absurd rfl h
  | retried hindex htext hrecoverable hretry =>
    obtain ⟨k, hk⟩ := hretry.exists_calls
    exact sends_together hindex htext (.error _) hk fun _ => ⟨_, rfl, hrecoverable⟩

end

/-- **What a batch sends.** The variables that the clause declares are either left unbound by the
first row or sent with values, and none is both. Without rows, with a reserved row index, and with a
blank node among the values of several rows nothing is sent. A single row sends at most its own
query, in which only the unbound variables are selected. Several rows send one query, in which the
row index is selected as well, with their values behind it if there are variables to send, and
within the time for batches; if this fails in execution or takes too long, and only then, queries
for single rows may follow, which put the values of each row into the same query. Every call names
the base of the clause. The query is rendered at most once, whatever becomes of its calls.

**Proof sketch.** What a service exchanges is a transcript of the evaluation, and every transcript
is of one of the known kinds (`batchRun_of_trace`). -/
theorem evaluateBatch_sends {σ : Type} (config : Config) (d : Descriptor) (batch : List Row)
    (service : Service σ) (cancelled : σ × List Exchange → Bool) (w : σ) :
    (∀ n ∈ relevantNames batch d.declared, n ∉ unboundNames d batch) ∧
      (∀ n, n ∈ d.declared ↔
        n ∈ unboundNames d batch ∨ n ∈ relevantNames batch d.declared) ∧
      Sends config d batch ((evaluateBatch config d batch).exchanges service cancelled w) ∧
      RendersOnce config d batch service.transcribing cancelled (w, []) := by
  obtain ⟨outcome, htrace⟩ := (evaluateBatch config d batch).trace_exchanges service cancelled w
  refine ⟨fun n hn hunbound => ?_, fun n => ?_, (batchRun_of_trace htrace).sends,
    rendersOnce d config batch service.transcribing cancelled (w, [])⟩
  · exact (mem_unboundNames.1 hunbound).2 (mem_relevantNames.1 hn).2
  · rw [mem_unboundNames, mem_relevantNames]
    by_cases hbound : n ∈ (batch.headD .empty).names
    · simp only [hbound, not_true_eq_false, and_false, and_true, false_or]
    · simp only [hbound, not_false_eq_true, and_true, and_false, or_false]

/-- An endpoint that fails is asked for two rows together and then for each of them. -/
example :
    let d : Descriptor := ⟨"http://example.org/sparql", .ofList ["x", "y"], true, none,
      fun _ => "SELECT ?y \x7b ?x ?p ?y \x7d"⟩
    let failing : Service Unit :=
      ⟨fun _ w => (.now (.error (.queryExecution "busy")), w),
        fun _ w => (.now (.error (.queryExecution "busy")), w)⟩
    let a : Row := Row.empty.insert "x" (.iri "http://example.org/a")
    let b : Row := Row.empty.insert "x" (.iri "http://example.org/b")
    ((evaluateBatch {} d [a, b]).exchanges failing (fun _ => false) ()).map
        (·.call.query) =
      ["SELECT ?y \x7b ?x ?p ?y \x7d VALUES (?__rowIdx ?x) \x7b  (\"0\" <http://example.org/a> )" ++
          " (\"1\" <http://example.org/b> ) \x7d",
        "SELECT ?y \x7b <http://example.org/a> ?p ?y \x7d",
        "SELECT ?y \x7b <http://example.org/b> ?p ?y \x7d"] := by
  decide +kernel

end ServiceClause
