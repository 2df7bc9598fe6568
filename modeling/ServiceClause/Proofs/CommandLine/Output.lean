import ServiceClause.Proofs.CommandLine.Understanding
import ServiceClause.Proofs.Http.Requests
import ServiceClause.Proofs.Stream.Failures

/-!
# What a query command prints

A query command prints a report of all of its rows, or nothing. It collects the rows before it
prints any of them, so a failure in the last batch leaves as little behind as one in the first. The
rows are those of the batches evaluated one after another. Nothing is sent on behalf of a command
that is not understood.

## Main definitions

* `ServiceClause.CommandLine.QueryCommand.shown` — what a command shows.
* `ServiceClause.CommandLine.Task.sequential` — what a task gives, batch after batch.
* `ServiceClause.CommandLine.Task.Fails` — how a task may fail.
* `ServiceClause.CommandLine.Holds` — a document that holds rows.

## Main statements

* `ServiceClause.CommandLine.Task.evaluate_eq_sequential` — registry, stream and queue do not change
  the rows.
* `ServiceClause.CommandLine.Task.fails_iff` — a task fails exactly if there is an error.
* `ServiceClause.CommandLine.QueryCommand.prints_all_or_nothing` — a whole report or nothing.
-/

set_option autoImplicit false

namespace ServiceClause

/-! ## Acquiring a client for one use -/

namespace Registry

variable {κ : Type} (l : Lifecycle κ) (make : String → κ) {endpoint : String}

/-- A registry without clients has none to hand out if the one that it makes cannot be prepared. -/
theorem acquire_empty_of_error {e : FederationError}
    (h : (l.prepare (make endpoint)).1.value = .error e) :
    ((empty ⟨[], make⟩).acquire l endpoint).1 = .error e := by
  show (commit l _ endpoint _ (l.prepare (make endpoint)).1.value).1 = _
  rw [h]
  rfl

/-- Otherwise it hands out the client that it has made, as it is after it has been prepared. -/
theorem acquire_empty_of_ok (h : (l.prepare (make endpoint)).1.value = .ok ()) :
    ((empty ⟨[], make⟩).acquire l endpoint).1 = .ok 0 ∧
      ((empty ⟨[], make⟩).acquire l endpoint).2.clients =
        [⟨(l.prepare (make endpoint)).2, some endpoint, 1, 0⟩] := by
  constructor
  · show (commit l _ endpoint _ (l.prepare (make endpoint)).1.value).1 = _
    rw [h]
    rfl
  · show (commit l _ endpoint _ (l.prepare (make endpoint)).1.value).2.clients = _
    rw [h]
    rfl

/-- What is done with the only client of a registry. -/
theorem lend_of_clients {α : Type} {r : Registry κ} {k : KnownClient κ} (h : r.clients = [k])
    (use : κ → Outcome α × κ) : (r.lend 0 use).1 = (use k.client).1 := by
  simp only [lend, h]
  rfl

end Registry

/-! ## Collecting the rows -/

/-- Items are collected as their rows, or as the first error. -/
theorem mapM_id_eq (items : List Item) :
    items.mapM id = match firstError? items with
      | some e => .error e
      | none => .ok (rowsBeforeError items) := by
  induction items with
  | nil => rfl
  | cons item items ih =>
    cases item with
    | error e => rfl
    | ok row =>
      rw [List.mapM_cons, ih, firstError?, rowsBeforeError]
      cases firstError? items <;> rfl

/-- A stream that is read to its end has delivered the reference. -/
theorem Dispatch.readAll_eq_reference {σ : Type} (d : Dispatch σ) (source : List Item) (w : σ) :
    (d.readAll (.start (.ofItems source) w)).1 = (d.reference source w).1 := by
  obtain ⟨events, hevents, hplay, hended⟩ := d.exists_play_readAll (.start (.ofItems source) w) []
  exact (delivered_of_ended hevents hplay hended).1

namespace CommandLine

variable {τ : Type}

/-! ## Tasks -/

namespace Task

/-- The client of a task before it is prepared. -/
def client (t : Task) (carrier : τ) : Http.Client τ :=
  .new t.clause.endpoint t.config.client carrier

/-- How the batches of a task are evaluated. -/
def dispatch (t : Task) (transport : Http.Transport τ) : Dispatch (Http.Client τ) :=
  ⟨t.config, t.clause, Http.Client.service transport⟩

/-- The client of a task when it has been prepared. -/
def prepared (t : Task) (transport : Http.Transport τ) (carrier : τ) : Http.Client τ :=
  ((t.client carrier).prepare transport).2

/-- What a task gives if its client is prepared and its batches are evaluated one after another. -/
def sequential (t : Task) (transport : Http.Transport τ) (carrier : τ) : List Item :=
  match ((t.client carrier).prepare transport).1.value with
  | .error e => [.error e]
  | .ok () => ((t.dispatch transport).reference (t.input.map .ok) (t.prepared transport carrier)).1

/-- The queries of the batches and their answers. -/
def exchanges (t : Task) (transport : Http.Transport τ) (carrier : τ) : List Exchange :=
  ((t.dispatch transport).transcribing.reference (t.input.map .ok)
    (t.prepared transport carrier, [])).2.2

/-- How a task may fail. -/
inductive Fails (t : Task) (transport : Http.Transport τ) (carrier : τ) : Prop where
  /-- Its client cannot be prepared. -/
  | unprepared {e : FederationError}
    (h : ((t.client carrier).prepare transport).1.value = .error e) : Fails t transport carrier
  /-- After any number of batches, one fails or has an error among its rows. -/
  | batch {before after : List (List Row)} {rows : List Row} {e : FederationError}
    (hcut : batches t.config.blockSize t.input = before ++ rows :: after)
    (h : .error e ∈ outcomeItems (((t.dispatch transport).evaluation rows).runToEnd
      (t.dispatch transport).service
      ((t.dispatch transport).deliver [] before (t.prepared transport carrier)).2).1) :
    Fails t transport carrier
  /-- A query fails, or a solution is not understood, and the clause does not hide that. -/
  | exchange {x : Exchange} (hx : x ∈ t.exchanges transport carrier) (h : x.FailsFor t.clause) :
    Fails t transport carrier

variable (t : Task) (transport : Http.Transport τ) (carrier : τ)

theorem collect_eq (client : Http.Client τ) : (t.collect transport client).1 =
    ((t.dispatch transport).reference (t.input.map .ok) client).1.mapM id := by
  rw [← Dispatch.readAll_eq_reference]
  rfl

/-- A task is evaluated with the client that is handed out to it. -/
theorem evaluate_of_acquire {acquired : Outcome ClientId} {r : Registry (Http.Client τ)}
    (h : (Registry.empty (Http.Client.factory t.config.client carrier)).acquire
      (Http.Client.lifecycle transport) t.clause.endpoint = (acquired, r)) :
    (t.evaluate transport carrier).1 =
      acquired.bind fun id => (r.lend id (t.collect transport)).1 := by
  simp only [evaluate, h]
  cases acquired <;> rfl

/-- **The rows of a task are those of its batches, evaluated one after another.** -/
theorem evaluate_eq_sequential :
    (t.evaluate transport carrier).1 = (t.sequential transport carrier).mapM id := by
  unfold sequential
  cases hvalue : ((t.client carrier).prepare transport).1.value with
  | error e =>
    have hacquired := Registry.acquire_empty_of_error (Http.Client.lifecycle transport)
      (Http.Client.new · t.config.client carrier) hvalue
    rw [evaluate_of_acquire t transport carrier (Prod.ext hacquired rfl)]
    rfl
  | ok _ =>
    obtain ⟨hacquired, hclients⟩ := Registry.acquire_empty_of_ok (Http.Client.lifecycle transport)
      (Http.Client.new · t.config.client carrier) hvalue
    rw [evaluate_of_acquire t transport carrier (Prod.ext hacquired rfl)]
    exact (Registry.lend_of_clients hclients _).trans (t.collect_eq transport _)

theorem sequential_of_error {e : FederationError}
    (h : ((t.client carrier).prepare transport).1.value = .error e) :
    t.sequential transport carrier = [.error e] := by
  rw [sequential, h]

theorem sequential_of_ok (h : ((t.client carrier).prepare transport).1.value = .ok ()) :
    t.sequential transport carrier =
      ((t.dispatch transport).reference (t.input.map .ok) (t.prepared transport carrier)).1 := by
  rw [sequential, h]

/-- **A task fails exactly if there is an error among what it gives.**

**Proof sketch.** Once the client is prepared, the batches are delivered one after another
(`Dispatch.reference_rows`), and an error among the items comes from one of them. A failure that is
not hidden is an error of its batch (`error_of_streamRun`). -/
theorem fails_iff : t.Fails transport carrier ↔
    ∃ e, firstError? (t.sequential transport carrier) = some e := by
  cases hvalue : ((t.client carrier).prepare transport).1.value with
  | error e =>
    rw [sequential_of_error t transport carrier hvalue]
    constructor
    · intro _
      exact ⟨e, rfl⟩
    · intro _
      exact .unprepared hvalue
  | ok _ =>
    have hdeliver := (t.dispatch transport).reference_rows t.input (t.prepared transport carrier)
    rw [sequential_of_ok t transport carrier hvalue]
    constructor
    · intro h
      cases h with
      | unprepared he =>
        rw [he] at hvalue
        cases hvalue
      | @batch before after rows e hcut hbatch =>
        have hblocks : batches (t.dispatch transport).config.blockSize t.input =
            before ++ rows :: after := hcut
        rw [hdeliver, hblocks]
        exact Dispatch.error_of_failing_block _ hbatch
      | exchange hx hfails =>
        exact error_of_streamRun ((t.dispatch transport).streamRun_of_reference _ _).1 hx hfails
    · rintro ⟨e, he⟩
      rw [hdeliver] at he
      obtain ⟨before, block, after, hcut, hblock⟩ := Dispatch.exists_failing_block _ he
      exact .batch hcut hblock

/-- A task that does not fail gives rows. -/
theorem sequential_of_not_fails (h : ¬ t.Fails transport carrier) :
    ∃ rows : List Row, t.sequential transport carrier = rows.map .ok := by
  refine ⟨_, eq_map_of_firstError ?_⟩
  rw [Option.eq_none_iff_forall_ne_some]
  intro e he
  exact h ((t.fails_iff transport carrier).2 ⟨e, he⟩)

end Task

/-! ## What is printed -/

/-- Whether a document holds rows: the array of its solutions is read, as rows at hand, as these
rows in their order, each with its bindings in the order of their names. -/
def Holds (document : String) (rows : List Row) : Prop :=
  ∃ v bindings given, Json.read (symbolsOf document) = some v ∧
    (v.member? "results").bind (·.member? "bindings") = some bindings ∧
    readRows (symbolsOf bindings.pretty) = .ok given ∧
    (∀ text, Json.read text = some bindings → readRows text = .ok given) ∧
    List.Forall₂ (fun given row => given.ArrangedBy row []) given rows

/-- The report of rows as a result document holds them. -/
theorem holds_json (r : Report) : Holds (r.json ++ "\n") r.rows := by
  obtain ⟨given, hgiven, harranged⟩ := exists_decoded [] r.rows
  have hread : ∀ text, Json.read text = some (bindingsJson r.rows) → readRows text = .ok given := by
    intro text htext
    rw [readRows, htext]
    simp only [rowsOfJson?, asList?_bindingsJson, Option.map_some, Option.getD_some]
    exact mapM_eq_ok hgiven
  refine ⟨solutionsJson r.columns r.rows, bindingsJson r.rows, given, ?_, rfl, ?_, hread,
    harranged⟩
  · exact Json.read_pretty_line (textual_solutionsJson r.columns r.rows)
  · exact hread _ (Json.read_pretty (textual_bindingsJson r.rows))

namespace QueryCommand

/-- What a command shows if its evaluation takes some time. -/
def shown (q : QueryCommand) (files : Files) (transport : Http.Transport τ) (carrier : τ)
    (elapsed : Duration) : Display :=
  q.display elapsed (q.execute files transport carrier).1

section

variable {q : QueryCommand} {files : Files} {t : Task} (transport : Http.Transport τ) (carrier : τ)
  (elapsed : Duration)

theorem execute_of_task_error {cause : SetupError} (h : q.task files = .error cause) :
    q.execute files transport carrier = (.error (.setup cause), carrier) := by
  rw [execute, h]

theorem execute_of_means (h : q.Means files t) : (q.execute files transport carrier).1 =
    ((t.sequential transport carrier).mapM id).mapError .evaluation := by
  rw [execute, task_eq_ok_iff.2 h, ← Task.evaluate_eq_sequential]

/-- A command that means nothing is at fault, and nothing is sent for it, whatever there is to send
it with. -/
theorem execute_of_not_means (h : ¬ ∃ t, q.Means files t) : ∃ cause, ∀ {τ : Type}
    (transport : Http.Transport τ) (carrier : τ),
      q.execute files transport carrier = (.error (.setup cause), carrier) := by
  cases htask : q.task files with
  | error cause => exact ⟨cause, fun _ _ => execute_of_task_error _ _ htask⟩
  | ok t => exact absurd ⟨t, task_eq_ok_iff.1 htask⟩ h

theorem not_means_of_fault (h : (¬ ∃ config, q.ConfiguredAs files config) ∨
    (¬ ∃ rows, q.HasInput files rows) ∨ ∃ declaration ∈ q.prefixes, '=' ∉ declaration.toList) :
    ¬ ∃ t, q.Means files t := by
  rw [exists_means_iff]
  rintro ⟨hconfig, hrows, hprefixes⟩
  rcases h with h | h | ⟨declaration, hmem, h⟩
  · exact h hconfig
  · exact h hrows
  · exact h (hprefixes declaration hmem)

theorem shown_of_not_means (h : ¬ ∃ t, q.Means files t) : ∃ cause,
    q.shown files transport carrier elapsed = { failure? := some (.setup cause) } := by
  obtain ⟨cause, hcause⟩ := execute_of_not_means h
  refine ⟨cause, ?_⟩
  rw [shown, hcause]
  rfl

/-- A task that fails is reported as an error. -/
theorem shown_of_fails (h : q.Means files t) (hfails : t.Fails transport carrier) :
    ∃ e : FederationError, q.shown files transport carrier elapsed =
      { errors := "Error: " ++ e.message ++ "\n", failure? := some (.evaluation e) } := by
  obtain ⟨e, he⟩ := (t.fails_iff transport carrier).1 hfails
  refine ⟨e, ?_⟩
  rw [shown, execute_of_means transport carrier h, mapM_id_eq, he]
  rfl

/-- The rows of a task that does not fail are printed. -/
theorem shown_of_not_fails (h : q.Means files t) (hfails : ¬ t.Fails transport carrier) :
    ∃ rows : List Row, t.sequential transport carrier = rows.map .ok ∧
      q.shown files transport carrier elapsed =
        { output := (Report.mk q.endpoint rows elapsed).text q.format ++ "\n" } := by
  obtain ⟨rows, hrows⟩ := t.sequential_of_not_fails transport carrier hfails
  have hcollected : (rows.map Except.ok).mapM id = (.ok rows : Outcome (List Row)) :=
    mapM_eq_ok (by simp)
  refine ⟨rows, hrows, ?_⟩
  rw [shown, execute_of_means transport carrier h, hrows, hcollected]
  rfl

/-- Something is printed exactly if there is no failure: even a report of no rows has a text. -/
theorem output_ne_empty_iff (q : QueryCommand) (elapsed : Duration)
    (outcome : Except QueryFailure (List Row)) :
    (q.display elapsed outcome).output ≠ "" ↔ (q.display elapsed outcome).failure? = none := by
  cases outcome with
  | ok rows => simp [display]
  | error cause => cases cause <;> simp [display]

/-- A command succeeds exactly if it is understood and its task does not fail. -/
theorem succeeds_iff : (q.shown files transport carrier elapsed).failure? = none ↔
    ∃ t, q.Means files t ∧ ¬ t.Fails transport carrier := by
  constructor
  · intro hnone
    have hmeans : ∃ t, q.Means files t := by
      by_contra hnot
      obtain ⟨cause, hshown⟩ := shown_of_not_means transport carrier elapsed hnot
      rw [hshown] at hnone
      cases hnone
    obtain ⟨t, ht⟩ := hmeans
    refine ⟨t, ht, fun hfails => ?_⟩
    obtain ⟨e, hshown⟩ := shown_of_fails transport carrier elapsed ht hfails
    rw [hshown] at hnone
    cases hnone
  · rintro ⟨t, ht, hfails⟩
    obtain ⟨rows, -, hshown⟩ := shown_of_not_fails transport carrier elapsed ht hfails
    rw [hshown]

end

/-- A command with two input rows, which are evaluated one by one. -/
def twoTurns : QueryCommand where
  endpoint := "http://example.org/"
  pattern := "?s ?p ?x"
  names := ["s", "?x"]
  rows? := some "[\x7b\x7d, \x7b\x7d]"
  blockSize? := some 1
  format := .json

/-- What the command comes down to. -/
def twoTurnsTask : Task where
  config := { rowsPerBatch := 1 }
  clause := twoTurns.clause ⟨[], "?s ?p ?x"⟩
  input := [.empty, .empty]

/-- An answer with one solution. -/
def oneSolution : Http.Reply :=
  .answered ⟨200⟩ (symbolsOf ("\x7b\"head\": \x7b\x7d, \"results\": \x7b\"bindings\": " ++
    "[\x7b\"x\": \x7b\"type\": \"uri\", \"value\": \"http://example.org/a\"\x7d\x7d]\x7d\x7d"))

theorem means_twoTurns (files : Files) : twoTurns.Means files twoTurnsTask where
  config := ⟨{}, .default rfl, rfl, by decide +kernel⟩
  input := .given rfl rfl (by decide +kernel)
  clause := ⟨[], .nil, rfl⟩

theorem sequential_twoTurns {replies : List Http.Reply}
    (h : ((twoTurnsTask.client (replies, [])).prepare .scripted).1.value = .ok ()) :
    twoTurnsTask.sequential .scripted (replies, []) =
      ((twoTurnsTask.dispatch .scripted).deliver [] [[.empty], [.empty]]
        (twoTurnsTask.prepared .scripted (replies, []))).1 := by
  have hbatches : batches (twoTurnsTask.dispatch .scripted).config.blockSize twoTurnsTask.input =
      [[.empty], [.empty]] := by
    show batches 1 [.empty, .empty] = _
    simp [batches]
  rw [Task.sequential_of_ok _ _ _ h, Dispatch.reference_rows, hbatches]

end QueryCommand

end CommandLine

end ServiceClause
