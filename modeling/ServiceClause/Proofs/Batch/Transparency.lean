import ServiceClause.Proofs.Batch.Runs
import ServiceClause.Proofs.Interleavings
import ServiceClause.Proofs.Query.Sendable
import ServiceClause.Proofs.RowIndex
import ServiceClause.Proofs.Sequences

/-!
# Batching is transparent

Rows that bind the same variables may be evaluated together or one by one: an endpoint that knows
which rows extend each of them leads to the same rows either way. Together, the rows that belong to
different input rows may come in any order among each other, and a batch that fails is tried row by
row, in the order of the rows.

## Main definitions

* `ServiceClause.Uniform` — a batch of rows that bind the same variables.
* `ServiceClause.Service.Knows` — a service that knows the rows that extend each row of a batch.
* `ServiceClause.IsTogetherAnswer` — what it may answer for all of them.

## Main statements

* `ServiceClause.evaluateBatch_transparent` — a batch gives what its rows give one by one.
-/

set_option autoImplicit false

namespace ServiceClause

/-! ## Batches and what a service knows about them -/

/-- Rows that can be evaluated together and one by one alike. -/
structure Uniform (config : Config) (d : Descriptor) (batch : List Row) : Prop where
  /-- All rows bind the same variables. -/
  alike : ∀ row ∈ batch, ∀ other ∈ batch, row.nameSet = other.nameSet
  /-- None of them binds the row index. -/
  free : ∀ row ∈ batch, config.rowIndex ∉ row.names
  /-- All values can be sent. -/
  sendable : ∀ row ∈ batch, row.Renderable d.declared

section

variable {σ : Type}

/-- Whether a service answers the query for the rows that extend `row` with the rows `remote`,
whenever it is asked. -/
def Service.AnswersRow (service : Service σ) (d : Descriptor) (query : String) (row : Row)
    (remote : List Row) : Prop :=
  ∀ text, preBind query row d.declared = .ok text → ∀ w, ∃ head,
    (service.select ⟨.select, text, d.base?, none⟩ w).1.value = .ok (.ofRows head remote)

/-- A service knows that the rows `remote i` extend row number `i` of a batch. -/
structure Service.Knows (service : Service σ) (config : Config) (d : Descriptor) (batch : List Row)
    (remote : Nat → List Row) : Prop where
  /-- It gives them when it is asked for the row. -/
  plain : ∀ i row, batch[i]? = some row →
    service.AnswersRow d (d.render (d.projection row.nameSet)) row (remote i)
  /-- It gives them when the row index is selected as well. -/
  indexed : ∀ i row, batch[i]? = some row →
    service.AnswersRow d (d.render ((d.projection row.nameSet).insert config.rowIndex)) row (remote i)
  /-- They bind only variables that the clause declares and the row leaves unbound. -/
  fresh : ∀ i row, batch[i]? = some row → ∀ r ∈ remote i, ∀ n ∈ r.names,
    n ∈ d.projection row.nameSet

/-- What a service that knows the rows `remote i` may answer when it is asked for all rows of a batch
together. If no values are sent, the same rows extend every row of the batch; otherwise they bear
the numbers of the rows that they extend, and those of different rows come in any order. -/
def IsTogetherAnswer (config : Config) (d : Descriptor) (batch : List Row)
    (remote : Nat → List Row) (answer : List Row) : Prop :=
  if (relevantNames batch d.declared).isEmpty then ∀ i < batch.length, remote i = answer
  else ∃ tagged : Nat → List Row, Interleaves batch.length tagged answer ∧
    ∀ i < batch.length, (tagged i).map (·.erase config.rowIndex) = remote i ∧
      ∀ r ∈ tagged i, r.Bears config.rowIndex i

/-- Row number `i` of a batch, extended by the rows that belong to it. -/
def extensions (batch : List Row) (remote : Nat → List Row) (i : Nat) : List Row :=
  (remote i).map (batch.getD i .empty).merge

/-- The answer to the call for all rows of a batch, as it arrives within the time for batches. -/
def Service.togetherAnswer (service : Service σ) (config : Config) (d : Descriptor) (text : String)
    (w : σ) : Outcome Solutions :=
  ((service.select (togetherCall d config text) w).1.within (some config.batchTimeout)).value

/-! ## One row -/

variable {service : Service σ} {config : Config} {d : Descriptor} {row : Row} {remote : List Row}

/-- The query for one row gives the row extended by the answers. -/
theorem runToEnd_evaluateSelect {query : String} (hquery : HasPattern query)
    (h : service.AnswersRow d query row remote) (w : σ) :
    ∃ rows w', (evaluateSelect query row d.base? d.declared).runToEnd service w = (.ok rows, w') ∧
      rows.toList = (remote.map row.merge).map .ok := by
  obtain ⟨text, htext⟩ := exists_preBind hquery row d.declared
  obtain ⟨head, hanswer⟩ := h text htext w
  refine ⟨(Solutions.ofRows head remote).toSequence.insert row,
    (service.select ⟨.select, text, d.base?, none⟩ w).2, ?_, ?_⟩
  · unfold evaluateSelect
    rw [htext]
    show Evaluation.run service (fun _ => false) (.done (Except.map _
      (service.select ⟨.select, text, d.base?, none⟩ w).1.value)) _ = _
    rw [hanswer]
    rfl
  · rw [RowSequence.toList_insert, Solutions.toSequence, RowSequence.toList_ofItems]
    simp [Solutions.ofRows, Except.map]

/-- A batch of one row gives the row extended by the answers. -/
theorem runToEnd_evaluateBatch_single (hindex : config.rowIndex ∉ d.declared)
    (hquery : HasPattern (d.render (d.projection row.nameSet)))
    (h : service.AnswersRow d (d.render (d.projection row.nameSet)) row remote) (w : σ) :
    ∃ rows w', (evaluateBatch config d [row]).runToEnd service w = (.ok rows, w') ∧
      rows.toList = (remote.map row.merge).map .ok := by
  obtain ⟨rows, w', hrun, hrows⟩ := runToEnd_evaluateSelect hquery h w
  refine ⟨rows.silentIf d.silent, w', ?_, toList_silentIf_of_rows hrows d.silent⟩
  rw [evaluateBatch_single hindex, Evaluation.runToEnd_map, hrun]
  rfl

/-! ## Rows one by one -/

theorem erase_merge_of_notMem {r : Row} {rowIndex : Name} (hrow : rowIndex ∉ row.names)
    (hr : rowIndex ∉ r.names) : (row.merge r).erase rowIndex = row.merge r := by
  refine Row.erase_of_notMem fun h => ?_
  rcases Row.mem_names_merge.1 h with h | h
  · exact hr h
  · exact hrow h

/-- The retry gives the rows of the batch, extended by their answers, one after another.

**Proof sketch.** Induction on the rows. Nothing is stripped, as no row binds the row index. -/
theorem runToEnd_retryParts {query : String} {rowIndex : Name} (hquery : HasPattern query)
    {rows : List Row} (remote : Nat → List Row)
    (hanswers : ∀ i row, rows[i]? = some row → service.AnswersRow d query row (remote i))
    (hrow : ∀ row ∈ rows, rowIndex ∉ row.names)
    (hremote : ∀ i < rows.length, ∀ r ∈ remote i, rowIndex ∉ r.names) (w : σ) :
    ∃ parts w', (retryParts d query rowIndex rows).runToEnd service w = (parts, w') ∧
      parts.flatMap RowSequence.toList =
        ((List.range rows.length).flatMap (extensions rows remote)).map .ok := by
  induction rows generalizing remote w with
  | nil => exact ⟨[], w, rfl, rfl⟩
  | cons row rest ih =>
    obtain ⟨given, w₁, hrun, hgiven⟩ := runToEnd_evaluateSelect hquery (hanswers 0 row rfl) w
    obtain ⟨parts, w₂, hrest, hparts⟩ := ih (fun i => remote (i + 1))
      (fun i r hr => hanswers (i + 1) r hr) (fun r hr => hrow r (List.mem_cons_of_mem _ hr))
      (fun i hi => hremote (i + 1) (by simpa using hi)) w₁
    have hstripped : (given.strip rowIndex).toList = ((remote 0).map row.merge).map .ok := by
      rw [RowSequence.toList_strip, hgiven, List.map_map, List.map_map, List.map_map]
      refine List.map_congr_left fun r hr => ?_
      have hfree := erase_merge_of_notMem (hrow row List.mem_cons_self)
        (hremote 0 (by simp) r (by simpa using hr))
      show Except.ok ((row.merge r).erase rowIndex) = Except.ok (row.merge r)
      rw [hfree]
    refine ⟨(given.strip rowIndex).silentIf d.silent :: parts, w₂, ?_, ?_⟩
    · have hfirst : (evaluateSelect query row d.base? d.declared).run service (fun _ => false) w =
          (.ok given, w₁) := hrun
      show ((evaluateSelect query row d.base? d.declared).bind _).run service (fun _ => false) w = _
      rw [Evaluation.run_bind, hfirst]
      show ((retryParts d query rowIndex rest).map _).runToEnd service w₁ = _
      rw [Evaluation.runToEnd_map, hrest]
    · rw [List.flatMap_cons, toList_silentIf_of_rows hstripped, hparts, List.length_cons,
        List.range_succ_eq_map, List.flatMap_cons, List.flatMap_map, List.map_append]
      rfl

/-! ## All rows together -/

theorem eq_map_range (batch : List Row) :
    batch = (List.range batch.length).map fun i => batch.getD i .empty := by
  refine List.ext_getElem (by simp) fun i h _ => ?_
  simp [List.getD, h]

/-- What a remote row gives for each row of a batch, if no values are sent. -/
theorem crossItems_rows (batch answer : List Row) :
    crossItems batch (answer.map .ok) = (answer.flatMap fun r =>
      (List.range batch.length).map fun i => (batch.getD i .empty).merge r).map .ok := by
  have hbatch : ∀ r : Row, batch.map (fun input => (Except.ok (input.merge r) : Item)) =
      ((List.range batch.length).map fun i => (batch.getD i .empty).merge r).map .ok := by
    intro r
    refine (congrArg (List.map _) (eq_map_range batch)).trans ?_
    rw [List.map_map, List.map_map]
    rfl
  unfold crossItems
  rw [List.flatMap_map, List.map_flatMap]
  simp only [hbatch]

/-- The rows that extend the rows of a batch come back in some order, those of each row in theirs. -/
theorem interleaves_joinAnswer {batch : List Row} {remote : Nat → List Row} {answer : List Row}
    (h : IsTogetherAnswer config d batch remote answer) (head : List Name) :
    ∃ merged, Interleaves batch.length (extensions batch remote) merged ∧
      (joinAnswer d batch (relevantNames batch d.declared) config.rowIndex
        (.ofRows head answer)).toList = merged.map .ok := by
  unfold IsTogetherAnswer at h
  unfold joinAnswer
  by_cases hempty : (relevantNames batch d.declared).isEmpty = true
  · rw [if_pos hempty] at h
    refine ⟨_, (interleaves_flatMap batch.length (fun i r => (batch.getD i .empty).merge r)
      answer).congr fun i hi => by rw [extensions, h i hi], ?_⟩
    refine toList_silentIf_of_rows ?_ d.silent
    rw [if_pos hempty, RowSequence.toList_cross, Solutions.toSequence, RowSequence.toList_ofItems]
    exact crossItems_rows batch answer
  · rw [if_neg hempty] at h
    obtain ⟨tagged, htagged, hrows⟩ := h
    have hplace : ∀ i < batch.length, ∀ r ∈ tagged i, joinNamed batch config.rowIndex r =
        some ((batch.getD i .empty).merge (r.erase config.rowIndex)) := by
      intro i hi r hr
      refine joinNamed_of_bears ((hrows i hi).2 r hr) ?_
      rw [List.getD, List.getElem?_eq_getElem hi]
      rfl
    have hjoined := htagged.filterMap hplace
    refine ⟨_, hjoined.congr fun i hi => ?_, ?_⟩
    · rw [extensions, ← (hrows i hi).1, List.map_map]
      rfl
    · refine toList_silentIf_of_rows ?_ d.silent
      rw [if_neg hempty, RowSequence.toList_join, Solutions.toSequence, RowSequence.toList_ofItems]
      exact joinItems_rows _ answer

section Together

variable {first second : Row} {rest : List Row} {text : String} {w : σ}

/-- A batch whose call is answered gives the answer joined to its rows. -/
theorem runToEnd_of_answered (hindex : config.rowIndex ∉ d.declared)
    (htext : togetherText d config (first :: second :: rest) = .ok text) {solutions : Solutions}
    (hanswer : service.togetherAnswer config d text w = .ok solutions) :
    (evaluateBatch config d (first :: second :: rest)).runToEnd service w =
      (.ok (joinAnswer d (first :: second :: rest)
        (relevantNames (first :: second :: rest) d.declared) config.rowIndex solutions),
        (service.select (togetherCall d config text) w).2) := by
  have hvalue : ((service.select (togetherCall d config text) w).1.within
      (togetherCall d config text).budget?).value = .ok solutions := hanswer
  rw [evaluateBatch_of_togetherText hindex htext, Evaluation.runToEnd, Evaluation.run, hvalue]
  rfl

/-- A batch whose call fails in execution gives what its rows give one by one. -/
theorem runToEnd_of_retried (hindex : config.rowIndex ∉ d.declared)
    (htext : togetherText d config (first :: second :: rest) = .ok text) {e : FederationError}
    (hanswer : service.togetherAnswer config d text w = .error e) (he : e.isRecoverable = true)
    {parts : List RowSequence} {w' : σ}
    (hretry : (retryParts d (togetherQuery d config (first :: second :: rest)) config.rowIndex
      (first :: second :: rest)).runToEnd service (service.select (togetherCall d config text) w).2 =
        (parts, w')) :
    (evaluateBatch config d (first :: second :: rest)).runToEnd service w =
      (.ok ((RowSequence.chain parts).silentIf d.silent), w') := by
  have hvalue : ((service.select (togetherCall d config text) w).1.within
      (togetherCall d config text).budget?).value = .error e := hanswer
  rw [evaluateBatch_of_togetherText hindex htext, Evaluation.runToEnd, Evaluation.run, hvalue]
  simp only [he, if_true]
  show ((retry d _ config.rowIndex _).map _).runToEnd service _ = _
  rw [Evaluation.runToEnd_map, retry, Evaluation.runToEnd_map, hretry]

/-- A batch whose call fails otherwise gives what the clause makes of the failure. -/
theorem runToEnd_of_failed (hindex : config.rowIndex ∉ d.declared)
    (htext : togetherText d config (first :: second :: rest) = .ok text) {e : FederationError}
    (hanswer : service.togetherAnswer config d text w = .error e) (he : e.isRecoverable = false) :
    (evaluateBatch config d (first :: second :: rest)).runToEnd service w =
      (recover d (first :: second :: rest) e,
        (service.select (togetherCall d config text) w).2) := by
  have hvalue : ((service.select (togetherCall d config text) w).1.within
      (togetherCall d config text).budget?).value = .error e := hanswer
  rw [evaluateBatch_of_togetherText hindex htext, Evaluation.runToEnd, Evaluation.run, hvalue]
  simp only [he, Bool.false_eq_true, if_false]
  rfl

end Together

/-- **Batching is transparent.** Consider two or more rows that bind the same variables, with a
service that knows which rows extend each of them. Alone, every row gives these rows. Together, if
the service answers, the rows give the same, in an order that keeps the order of the rows that
belong to the same input row; if the call for all of them fails in execution or comes too late, they
give the same, one after another.

**Proof sketch.** If they are answered together, each remote row is placed by its number, or extends
every input row (`interleaves_joinAnswer`); if not, they are tried one by one
(`runToEnd_retryParts`). -/
theorem evaluateBatch_transparent {batch : List Row} {remote : Nat → List Row}
    (hindex : config.rowIndex ∉ d.declared) (hpatterns : d.HasPatterns config.rowIndex)
    (hlength : 2 ≤ batch.length) (huniform : Uniform config d batch)
    (hknows : service.Knows config d batch remote) :
    ∃ text, togetherText d config batch = .ok text ∧
      (∀ i row, batch[i]? = some row → ∀ w, ∃ rows w',
        (evaluateBatch config d [row]).runToEnd service w = (.ok rows, w') ∧
          rows.toList = (extensions batch remote i).map .ok) ∧
      ∀ w,
        (∀ head answer, service.togetherAnswer config d text w = .ok (.ofRows head answer) →
          IsTogetherAnswer config d batch remote answer → ∃ rows w' merged,
            (evaluateBatch config d batch).runToEnd service w = (.ok rows, w') ∧
            rows.toList = merged.map .ok ∧
            Interleaves batch.length (extensions batch remote) merged ∧
            merged.Perm ((List.range batch.length).flatMap (extensions batch remote))) ∧
        ∀ e, service.togetherAnswer config d text w = .error e → e.isRecoverable = true →
          ∃ rows w', (evaluateBatch config d batch).runToEnd service w = (.ok rows, w') ∧
            rows.toList =
              ((List.range batch.length).flatMap (extensions batch remote)).map .ok := by
  obtain ⟨text, htext⟩ : ∃ text, togetherText d config batch = .ok text :=
    exists_batchText huniform.sendable
  obtain ⟨first, second, rest, rfl⟩ : ∃ first second rest, batch = first :: second :: rest := by
    match batch, hlength with
    | first :: second :: rest, _ => exact ⟨first, second, rest, rfl⟩
  have hindexed : ∀ i row, (first :: second :: rest)[i]? = some row → service.AnswersRow d
      (togetherQuery d config (first :: second :: rest)) row (remote i) := by
    intro i row hrow
    have hbound : first.nameSet = row.nameSet :=
      huniform.alike first List.mem_cons_self row (List.mem_of_getElem? hrow)
    show service.AnswersRow d
      (d.render ((d.projection first.nameSet).insert config.rowIndex)) row (remote i)
    rw [hbound]
    exact hknows.indexed i row hrow
  have hfree : ∀ i < (first :: second :: rest).length, ∀ r ∈ remote i,
      config.rowIndex ∉ r.names := by
    intro i hi r hr hn
    have hprojected := hknows.fresh i _ (List.getElem?_eq_getElem hi) r hr config.rowIndex hn
    exact hindex (NameSet.mem_diff.1 hprojected).1
  refine ⟨text, htext, ?_, ?_⟩
  · intro i row hrow w
    have hget : (first :: second :: rest).getD i .empty = row := by
      rw [List.getD, hrow]
      rfl
    obtain ⟨rows, w', hrun, hrows⟩ :=
      runToEnd_evaluateBatch_single hindex (hpatterns _).1 (hknows.plain i row hrow) w
    refine ⟨rows, w', hrun, ?_⟩
    rw [hrows, extensions, hget]
  · intro w
    refine ⟨?_, ?_⟩
    · intro head answer hanswer htogether
      obtain ⟨merged, hmerged, hrows⟩ := interleaves_joinAnswer htogether head
      exact ⟨_, _, merged, runToEnd_of_answered hindex htext hanswer, hrows, hmerged, hmerged.perm⟩
    · intro e hanswer he
      obtain ⟨parts, w', hretry, hparts⟩ := runToEnd_retryParts (hpatterns _).2 remote
        hindexed huniform.free hfree (service.select (togetherCall d config text) w).2
      refine ⟨_, w', runToEnd_of_retried hindex htext hanswer he hretry, ?_⟩
      exact toList_silentIf_of_rows ((RowSequence.toList_chain parts).trans hparts) d.silent

end

/-! ## An instance -/

/-- A clause about things and their numbers. -/
def numberClause : Descriptor where
  endpoint := "http://example.org/"
  declared := NameSet.ofList ["n", "x"]
  silent := false
  base? := none
  render _ := "SELECT * WHERE \x7b ?x <http://example.org/number> ?n \x7d"

/-- Two things. -/
def twoThings : List Row :=
  [Row.empty.insert "x" (.literal (.plain "a")), Row.empty.insert "x" (.literal (.plain "b"))]

/-- The row that binds a number. -/
def numberRow (text : String) : Row := Row.empty.insert "n" (.literal (.plain text))

/-- The numbers of the two things. -/
def numbersOf : Nat → List Row
  | 0 => [numberRow "1"]
  | _ => [numberRow "2", numberRow "3"]

/-- The row with the number of an input row. -/
def tagRow (row : Row) (tag : String) : Row := row.insert "__rowIdx" (.literal (.plain tag))

/-- A service that knows the numbers of the two things, and tells them in some order if it is asked
for both. -/
def numberService : Service Unit where
  select call w := (.now (.ok (.ofRows ["n"]
    (if call.query = "SELECT * WHERE \x7b \"a\" <http://example.org/number> ?n \x7d" then numbersOf 0
    else if call.query = "SELECT * WHERE \x7b \"b\" <http://example.org/number> ?n \x7d" then
      numbersOf 1
    else [tagRow (numberRow "2") "1", tagRow (numberRow "1") "0", tagRow (numberRow "3") "1"]))), w)
  ask _ w := (.now (.ok true), w)

theorem numberService_answersRow {i : Nat} {row : Row} (h : twoThings[i]? = some row) :
    numberService.AnswersRow numberClause (numberClause.render .empty) row (numbersOf i) := by
  intro text htext w
  have hsome : (preBind (numberClause.render .empty) row numberClause.declared).toOption =
      some text := by
    rw [htext]
    rfl
  refine ⟨["n"], ?_⟩
  rcases i with _ | _ | i
  · obtain rfl := Option.some.inj h
    have hbound : (preBind (numberClause.render .empty)
        (Row.empty.insert "x" (.literal (.plain "a"))) numberClause.declared).toOption =
          some "SELECT * WHERE \x7b \"a\" <http://example.org/number> ?n \x7d" := by decide +kernel
    obtain rfl := Option.some.inj (hsome.symm.trans hbound)
    rfl
  · obtain rfl := Option.some.inj h
    have hbound : (preBind (numberClause.render .empty)
        (Row.empty.insert "x" (.literal (.plain "b"))) numberClause.declared).toOption =
          some "SELECT * WHERE \x7b \"b\" <http://example.org/number> ?n \x7d" := by decide +kernel
    obtain rfl := Option.some.inj (hsome.symm.trans hbound)
    rfl
  · simp [twoThings] at h

/-- The numbers of two things, asked for together, are those of each of them. -/
theorem numbers_together :
    ∃ (rows : RowSequence) (w' : Unit) (merged : List Row),
      (evaluateBatch {} numberClause twoThings).runToEnd numberService () = (.ok rows, w') ∧
      rows.toList = merged.map .ok ∧
      merged.Perm ((List.range 2).flatMap (extensions twoThings numbersOf)) := by
  have huniform : Uniform {} numberClause twoThings := by
    refine ⟨by decide +kernel, by decide +kernel, ?_⟩
    intro row hrow n _ t hget
    simp only [twoThings, List.mem_cons, List.not_mem_nil, or_false] at hrow
    rcases hrow with rfl | rfl <;>
    · rw [Row.get?_insert] at hget
      split at hget
      · obtain rfl := Option.some.inj hget
        rfl
      · simp [Row.get?, Bindings.find?] at hget
  have hknows : numberService.Knows {} numberClause twoThings numbersOf := by
    refine ⟨fun i row h => numberService_answersRow h, fun i row h => numberService_answersRow h, ?_⟩
    rintro (_ | _ | i) row h
    · obtain rfl := Option.some.inj h
      decide +kernel
    · obtain rfl := Option.some.inj h
      decide +kernel
    · simp [twoThings] at h
  have hpattern : HasPattern (numberClause.render .empty) := by decide +kernel
  obtain ⟨text, htext, _, htogether⟩ := evaluateBatch_transparent (by decide +kernel)
    (fun _ => ⟨hpattern, hpattern⟩) (by decide) huniform hknows
  have hsome : (togetherText numberClause {} twoThings).toOption = some text := by
    rw [htext]
    rfl
  have hvalues : (togetherText numberClause {} twoThings).toOption =
      some ("SELECT * WHERE \x7b ?x <http://example.org/number> ?n \x7d" ++
        " VALUES (?__rowIdx ?x) \x7b  (\"0\" \"a\" ) (\"1\" \"b\" ) \x7d") := by decide +kernel
  obtain rfl := Option.some.inj (hsome.symm.trans hvalues)
  have hinterleaved : IsTogetherAnswer {} numberClause twoThings numbersOf
      [tagRow (numberRow "2") "1", tagRow (numberRow "1") "0", tagRow (numberRow "3") "1"] := by
    have hrelevant : ¬ (relevantNames twoThings numberClause.declared).isEmpty = true := by
      decide +kernel
    unfold IsTogetherAnswer
    rw [if_neg hrelevant]
    refine ⟨fun i => (numbersOf i).map (tagRow · (toString i)), ⟨[(1, tagRow (numberRow "2") "1"),
      (0, tagRow (numberRow "1") "0"), (1, tagRow (numberRow "3") "1")], rfl, by decide +kernel,
      by decide +kernel⟩, ?_⟩
    intro i hi
    refine ⟨?_, ?_⟩
    · revert i
      decide +kernel
    · intro r hr
      obtain ⟨number, _, rfl⟩ := List.mem_map.1 hr
      exact ⟨.plain (toString i), by rw [tagRow, Row.get?_insert, if_pos rfl], rfl⟩
  obtain ⟨rows, w', merged, hrun, hrows, _, hperm⟩ := (htogether ()).1 ["n"] _ rfl hinterleaved
  exact ⟨rows, w', merged, hrun, hrows, hperm⟩

end ServiceClause
