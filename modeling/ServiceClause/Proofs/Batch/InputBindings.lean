import ServiceClause.Proofs.Batch.Runs
import ServiceClause.Proofs.RowIndex
import ServiceClause.Proofs.Sequences
import ServiceClause.Query.Pattern

/-!
# What becomes of the bindings of the input

Every row that a batch gives is one of its input rows or extends one by a row of an answer. Since
remote values win, an input row keeps its bindings as far as the answer does not bind the same
variables. Which variables an answer may bind is decided by the first row of the batch, so only
other rows can lose a binding to it, unless the query selects whatever occurs in it. The row index
is a case of its own: it is removed from what the rows give one by one, and where the answers are
not joined by it, an answer may replace it.

## Main definitions

* `ServiceClause.Exchange.BindsOnly` — an answer that binds what its query selects.
* `ServiceClause.Replaceable` — the variables whose input values an answer may replace.
* `ServiceClause.Stripped` — the variable that is removed.
* `ServiceClause.Row.KeepsBut` — what a row has of an input row that it extends.

## Main statements

* `ServiceClause.evaluateBatch_keeps_bindings` — all other bindings of an input row are kept.
* `ServiceClause.bindings_replaced` — bindings that are not.
-/

set_option autoImplicit false

namespace ServiceClause

/-! ## What queries select -/

/-- The variables that occur in a query. -/
def occurringNames (query : String) : List Name :=
  (Token.scan query.toList).filterMap fun
    | .var _ name => some (String.ofList name)
    | _ => none

/-- The variables that the queries for a batch are rendered to select: `PatternQuery.render` writes
them after `SELECT`, or a star if there are none. -/
def batchSelection (config : Config) (d : Descriptor) : List Row → NameSet
  | [] => .empty
  | [row] => d.projection row.nameSet
  | first :: _ :: _ => (d.projection first.nameSet).insert config.rowIndex

/-- Whether the rows of an answer bind only variables that the query selects. A query that is
rendered to select none selects those that occur in it. -/
def Exchange.BindsOnly (selection : NameSet) : Exchange → Prop
  | .rows call (.ok solutions) => ∀ remote ∈ okRows solutions.items, ∀ n ∈ remote.names,
    if selection.isEmpty then n ∈ occurringNames call.query else n ∈ selection
  | _ => True

instance (selection : NameSet) (x : Exchange) : Decidable (x.BindsOnly selection) :=
  match x with
  | .rows call (.ok solutions) => inferInstanceAs (Decidable
    (∀ remote ∈ okRows solutions.items, ∀ n ∈ remote.names,
      if selection.isEmpty then n ∈ occurringNames call.query else n ∈ selection))
  | .rows _ (.error _) => isTrue trivial
  | .truth _ _ => isTrue trivial

/-- The rows of the answers in a transcript. -/
def answeredRows (log : List Exchange) : List Row :=
  log.flatMap fun
    | .rows _ (.ok solutions) => okRows solutions.items
    | _ => []

theorem mem_answeredRows {call : Call} {solutions : Solutions} {remote : Row}
    {log : List Exchange} (hcall : .rows call (.ok solutions) ∈ log)
    (hremote : .ok remote ∈ solutions.items) : remote ∈ answeredRows log :=
  List.mem_flatMap.2 ⟨_, hcall, mem_okRows.2 hremote⟩

/-- Whether the first call, if it is for all rows, has failed so that they are tried one by one. -/
def retried (log : List Exchange) : Bool :=
  log.head?.any fun x => x.error?.any FederationError.isRecoverable

/-- The variables whose input values an answer may replace: for a single row none, unless its query
selects whatever occurs in it; for several rows those that the first row leaves unbound and, if no
values are sent with the query and it is answered, the row index. -/
def Replaceable (config : Config) (d : Descriptor) (batch : List Row) (log : List Exchange)
    (n : Name) : Prop :=
  match batch with
  | [] => False
  | [row] => (d.projection row.nameSet).isEmpty = true ∧ ∃ x ∈ log, n ∈ occurringNames x.call.query
  | first :: second :: rest => n ∈ d.projection first.nameSet ∨ n = config.rowIndex ∧
    relevantNames (first :: second :: rest) d.declared = [] ∧ retried log = false

/-- The variable whose input value is removed: the row index, if several rows are tried one by
one. -/
def Stripped (config : Config) (batch : List Row) (log : List Exchange) (n : Name) : Prop :=
  2 ≤ batch.length ∧ n = config.rowIndex ∧ retried log = true

/-! ## Where rows come from -/

/-- A row that an answered batch gives extends an input row by a remote row or, if it is joined by the
row index, by what is left of the remote row without it. -/
theorem exists_of_mem_joinAnswer {d : Descriptor} {batch : List Row} {relevant : List Name}
    {rowIndex : Name} {solutions : Solutions} {row : Row}
    (h : .ok row ∈ (joinAnswer d batch relevant rowIndex solutions).toList) :
    ∃ remote, .ok remote ∈ solutions.items ∧ ∃ input ∈ batch,
      relevant = [] ∧ row = input.merge remote ∨
        row = input.merge (remote.erase rowIndex) := by
  have hitem := mem_of_mem_silentIf h
  split at hitem
  · next hempty =>
    rw [RowSequence.toList_cross, Solutions.toSequence, RowSequence.toList_ofItems] at hitem
    obtain ⟨remote, hremote, input, hinput, rfl⟩ := exists_of_mem_crossItems hitem
    exact ⟨remote, hremote, input, hinput, .inl ⟨List.isEmpty_iff.1 hempty, rfl⟩⟩
  · rw [RowSequence.toList_join, Solutions.toSequence, RowSequence.toList_ofItems] at hitem
    obtain ⟨remote, hremote, hplace⟩ := exists_of_mem_joinItems hitem
    obtain ⟨input, hinput, rfl⟩ := exists_of_joinNamed hplace
    exact ⟨remote, hremote, input, hinput, .inr rfl⟩

/-- A row that the query for one row gives extends that row by a remote row of the answer. -/
theorem exists_of_selectRun {query : String} {input : Row} {base? : Option String}
    {declared : NameSet} {log : List Exchange} {outcome : Outcome RowSequence} {row : Row}
    (h : SelectRun query input base? declared log outcome) (hrow : .ok row ∈ outcomeItems outcome) :
    ∃ call solutions remote, .rows call (.ok solutions) ∈ log ∧ .ok remote ∈ solutions.items ∧
      row = input.merge remote := by
  cases h with
  | unbindable hbind => simp [outcomeItems] at hrow
  | @sent text hbind answer =>
    cases answer with
    | error e => simp [outcomeItems, Except.map] at hrow
    | ok solutions =>
      have hinserted : .ok row ∈ (solutions.toSequence.insert input).toList := hrow
      rw [RowSequence.toList_insert, Solutions.toSequence, RowSequence.toList_ofItems] at hinserted
      obtain ⟨remote, hremote, rfl⟩ := exists_of_mem_map hinserted
      exact ⟨_, solutions, remote, List.mem_cons_self, hremote, rfl⟩

/-! ## Which bindings are kept -/

/-- Whether `row` has all bindings of `input`. -/
def Row.Keeps (row input : Row) : Prop :=
  ∀ n t, input.get? n = some t → row.get? n = some t

/-- Whether `row` has all bindings of `input`, except that it may have the value of `remote` for a
replaceable variable, and none for a stripped one. -/
def Row.KeepsBut (row input remote : Row) (replaceable stripped : Name → Prop) : Prop :=
  ∀ n t, input.get? n = some t → row.get? n = some t ∨
    (replaceable n ∧ ∃ t', remote.get? n = some t' ∧ row.get? n = some t') ∨
    stripped n ∧ row.get? n = none

section

variable {replaceable stripped : Name → Prop} {input remote row : Row} {name : Name}

/-- A row extended by a remote row keeps what the remote row does not bind. -/
theorem keepsBut_merge (h : ∀ n ∈ remote.names, n ∈ input.names → replaceable n) :
    (input.merge remote).KeepsBut input remote replaceable stripped := by
  intro n t hget
  rcases Row.get?_merge_cases remote hget with hkept | ⟨t', hremote, hreplaced⟩
  · exact .inl hkept
  · have hreplaceable := h n (Row.mem_names_of_get? hremote) (Row.mem_names_of_get? hget)
    exact .inr (.inl ⟨hreplaceable, t', hremote, hreplaced⟩)

/-- A row extended by what is left of a remote row without `name` keeps `name`. -/
theorem keepsBut_merge_erase (h : ∀ n ∈ remote.names, n ≠ name → replaceable n) :
    (input.merge (remote.erase name)).KeepsBut input remote replaceable stripped := by
  intro n t hget
  rcases Row.get?_merge_cases (remote.erase name) hget with hkept | ⟨t', herased, hreplaced⟩
  · exact .inl hkept
  · have hne : n ≠ name := by
      rintro rfl
      simp [Row.get?_erase] at herased
    rw [Row.get?_erase, if_neg hne] at herased
    exact .inr (.inl ⟨h n (Row.mem_names_of_get? herased) hne, t', herased, hreplaced⟩)

/-- An extended row without `name` keeps everything else that the remote row does not bind. -/
theorem keepsBut_erase_merge (hname : stripped name)
    (h : ∀ n ∈ remote.names, n ≠ name → replaceable n) :
    ((input.merge remote).erase name).KeepsBut input remote replaceable stripped := by
  intro n t hget
  by_cases hne : n = name
  · subst hne
    exact .inr (.inr ⟨hname, by rw [Row.get?_erase, if_pos rfl]⟩)
  · rw [Row.get?_erase, if_neg hne]
    rcases Row.get?_merge_cases remote hget with hkept | ⟨t', hremote, hreplaced⟩
    · exact .inl hkept
    · exact .inr (.inl ⟨h n (Row.mem_names_of_get? hremote) hne, t', hremote, hreplaced⟩)

variable {flag : Bool → Prop} {d : Descriptor} {log : List Exchange}

/-- A batch that a clause recovers gives its rows as they are. -/
theorem mem_of_mem_recover {batch : List Row} {e : FederationError}
    (h : .ok row ∈ outcomeItems (recover d batch e)) : row ∈ batch := by
  unfold recover at h
  split at h
  · simpa [outcomeItems] using h
  · simp [outcomeItems] at h

/-- What is known of some rows and of the last answers is known of more rows and all answers. -/
theorem keepsBut_later {rows all : List Row} (before : List Exchange) {later : List Exchange}
    (hrows : rows ⊆ all)
    (h : ∃ input ∈ rows, row = input ∨
      ∃ remote ∈ answeredRows later, row.KeepsBut input remote replaceable stripped) :
    ∃ input ∈ all, row = input ∨
      ∃ remote ∈ answeredRows (before ++ later),
        row.KeepsBut input remote replaceable stripped := by
  obtain ⟨input, hinput, rfl | ⟨remote, hremote, hkeeps⟩⟩ := h
  · exact ⟨row, hrows hinput, .inl rfl⟩
  · have hall : remote ∈ answeredRows (before ++ later) := by
      rw [answeredRows, List.flatMap_append]
      exact List.mem_append_right _ hremote
    exact ⟨input, hrows hinput, .inr ⟨remote, hall, hkeeps⟩⟩

/-- Rows tried one by one keep the bindings of variables that no answer binds, apart from the row
index.

**Proof sketch.** Induction on the retry. What the first row gives extends it, and the answers to
the later rows are among those of the whole retry. -/
theorem keepsBut_of_retryRun {query : String} {rowIndex : Name} {rows : List Row}
    {parts : List RowSequence} (hindex : stripped rowIndex)
    (h : RetryRun flag d query rowIndex rows log parts)
    (hlog : ∀ call solutions, .rows call (.ok solutions) ∈ log → ∀ remote,
      .ok remote ∈ solutions.items → ∀ n ∈ remote.names, n ≠ rowIndex → replaceable n)
    (hrow : .ok row ∈ (RowSequence.chain parts).toList) :
    ∃ input ∈ rows, row = input ∨
      ∃ remote ∈ answeredRows log, row.KeepsBut input remote replaceable stripped := by
  rw [RowSequence.toList_chain] at hrow
  induction h with
  | finished => simp at hrow
  | cancelled hflag => simp at hrow
  | @given first rest log later given parts hflag hselect hrest ih =>
    rw [List.flatMap_cons] at hrow
    rcases List.mem_append.1 hrow with hrow | hrow
    · have hstripped := mem_of_mem_silentIf hrow
      rw [RowSequence.toList_strip] at hstripped
      obtain ⟨whole, hwhole, rfl⟩ := exists_of_mem_map hstripped
      obtain ⟨call, solutions, remote, hcall, hremote, rfl⟩ := exists_of_selectRun hselect hwhole
      have hcall' := List.mem_append_left later hcall
      exact ⟨first, List.mem_cons_self, .inr ⟨remote, mem_answeredRows hcall' hremote,
        keepsBut_erase_merge hindex (hlog call solutions hcall' remote hremote)⟩⟩
    · have hlater := ih
        (fun call solutions hcall => hlog call solutions (List.mem_append_right _ hcall)) hrow
      exact keepsBut_later log (List.subset_cons_self first rest) hlater
  | @hidden first rest log later e parts hflag hselect hhides hrest ih =>
    rw [List.flatMap_cons, RowSequence.toList_one] at hrow
    rcases List.mem_append.1 hrow with hrow | hrow
    · exact ⟨first, List.mem_cons_self, .inl (Except.ok.inj (List.mem_singleton.1 hrow))⟩
    · have hlater := ih
        (fun call solutions hcall => hlog call solutions (List.mem_append_right _ hcall)) hrow
      exact keepsBut_later log (List.subset_cons_self first rest) hlater
  | failed hflag hselect hhides => simp at hrow

/-- What the answers to a batch of several rows may bind. -/
theorem mem_of_bindsOnly {config : Config} {first second : Row} {rest : List Row}
    {call : Call} {solutions : Solutions}
    (h : (Exchange.rows call (.ok solutions)).BindsOnly
      (batchSelection config d (first :: second :: rest)))
    (hremote : .ok remote ∈ solutions.items) {n : Name} (hn : n ∈ remote.names) :
    n = config.rowIndex ∨ n ∈ d.projection first.nameSet := by
  have hselected := h remote (mem_okRows.2 hremote) n hn
  have hindex : config.rowIndex ∈ batchSelection config d (first :: second :: rest) :=
    NameSet.mem_insert.2 (.inl rfl)
  have hnonempty : ¬ (batchSelection config d (first :: second :: rest)).isEmpty = true := by
    intro hempty
    rw [NameSet.mem_iff, List.isEmpty_iff.1 hempty] at hindex
    simp at hindex
  rw [if_neg hnonempty] at hselected
  exact NameSet.mem_insert.1 hselected

/-- A batch gives its rows, or rows that extend one of them by a row of an answer.

**Proof sketch.** By the kinds of transcripts. A single row binds none of the variables that its
query is rendered to select. Of several rows the variables that an answer may bind are replaceable,
the row index excepted; and if the answers are joined by the row index, it is removed from the
remote rows, so that the input row keeps it. -/
theorem keepsBut_of_batchRun {config : Config} {batch : List Row} {outcome : Outcome RowSequence}
    (h : BatchRun flag d config batch log outcome)
    (hlog : ∀ x ∈ log, x.BindsOnly (batchSelection config d batch))
    (hrow : .ok row ∈ outcomeItems outcome) :
    ∃ input ∈ batch, row = input ∨ ∃ remote ∈ answeredRows log,
      row.KeepsBut input remote (Replaceable config d batch log) (Stripped config batch log) := by
  cases h with
  | empty => simp [outcomeItems] at hrow
  | reserved hindex => simp [outcomeItems] at hrow
  | @single input _ rows hindex hselect =>
    obtain ⟨call, solutions, remote, hcall, hremote, rfl⟩ :=
      exists_of_selectRun hselect (mem_of_mem_silentIf hrow)
    refine ⟨input, List.mem_cons_self, .inr ⟨remote, mem_answeredRows hcall hremote,
      keepsBut_merge fun n hn hbound => ?_⟩⟩
    have hselected := hlog _ hcall remote (mem_okRows.2 hremote) n hn
    by_cases hempty : (d.projection input.nameSet).isEmpty = true
    · rw [batchSelection, if_pos hempty] at hselected
      exact ⟨hempty, _, hcall, hselected⟩
    · rw [batchSelection, if_neg hempty] at hselected
      exact absurd (Row.mem_nameSet.2 hbound) (NameSet.mem_diff.1 hselected).2
  | singleFailed hindex hselect => exact ⟨row, mem_of_mem_recover hrow, .inl rfl⟩
  | unsendable hindex htext => exact ⟨row, mem_of_mem_recover hrow, .inl rfl⟩
  | answered hindex htext solutions =>
    have hanswer := hlog _ List.mem_cons_self
    obtain ⟨remote, hremote, input, hinput, hjoined⟩ := exists_of_mem_joinAnswer hrow
    refine ⟨input, hinput, .inr ⟨remote, mem_answeredRows List.mem_cons_self hremote, ?_⟩⟩
    rcases hjoined with ⟨hrelevant, rfl⟩ | rfl
    · refine keepsBut_merge fun n hn _ => ?_
      rcases mem_of_bindsOnly hanswer hremote hn with rfl | hn
      · exact .inr ⟨rfl, hrelevant, rfl⟩
      · exact .inl hn
    · refine keepsBut_merge_erase fun n hn hne => .inl ?_
      exact (mem_of_bindsOnly hanswer hremote hn).resolve_left hne
  | failed hindex htext hrecoverable => exact ⟨row, mem_of_mem_recover hrow, .inl rfl⟩
  | @retried first second rest text e log parts hindex htext hrecoverable hretry =>
    have hstripped : Stripped config (first :: second :: rest)
        (.rows (togetherCall d config text) (.error e) :: log) config.rowIndex :=
      ⟨Nat.le_add_left 2 rest.length, rfl, hrecoverable⟩
    have hreplaceable : ∀ call solutions, .rows call (.ok solutions) ∈ log → ∀ remote,
        .ok remote ∈ solutions.items → ∀ n ∈ remote.names, n ≠ config.rowIndex →
          Replaceable config d (first :: second :: rest)
            (.rows (togetherCall d config text) (.error e) :: log) n := by
      intro call solutions hcall remote hremote n hn hne
      have hanswer := hlog _ (List.mem_cons_of_mem _ hcall)
      exact .inl ((mem_of_bindsOnly hanswer hremote hn).resolve_left hne)
    have hlater := keepsBut_of_retryRun hstripped hretry hreplaceable (mem_of_mem_silentIf hrow)
    exact keepsBut_later [_] (List.Subset.refl _) hlater

end

/-! ## Main result -/

/-- A clause with a pattern. -/
def patternClause (q : PatternQuery) (declared : NameSet) : Descriptor :=
  ⟨"http://example.org/", declared, false, none, q.render⟩

/-- A service that answers several rows together by `together`, and single rows by `alone`. -/
def scripted (together alone : Outcome Solutions) : Service Unit where
  select call w := (.now (if call.budget?.isSome then together else alone), w)
  ask _ w := (.now (.ok true), w)

/-- The row that binds `x` to a resource. -/
def subjectRow (iri : String) : Row := Row.empty.insert "x" (.iri iri)

/-- Whether a batch gives `row`, though no row of the batch has all its bindings in it, and though
the answers bind what their queries select. -/
def Loses (q : PatternQuery) (declared : NameSet) (batch : List Row) (service : Service Unit)
    (row : Row) : Prop :=
  ({} : Config).rowIndex ∉ declared ∧
    (∀ x ∈ ((evaluateBatch {} (patternClause q declared) batch).runToEnd
        service.transcribing ((), [])).2.2,
      x.BindsOnly (batchSelection {} (patternClause q declared) batch)) ∧
    .ok row ∈ outcomeItems
      ((evaluateBatch {} (patternClause q declared) batch).runToEnd service ()).1 ∧
    ∀ input ∈ batch, ¬ row.Keeps input

/-- A row that does not give `n` the term that `input` gives it does not keep all of `input`. -/
theorem not_keeps {row input : Row} (n : Name) (t : Term) (hinput : input.get? n = some t)
    (hrow : row.get? n ≠ some t) : ¬ row.Keeps input :=
  fun h => hrow (h n t hinput)

/-- Two rows that bind the row index themselves. -/
def indexRows : List Row :=
  [Row.empty.insert "__rowIdx" (.literal (.plain "a")),
    Row.empty.insert "__rowIdx" (.literal (.plain "b"))]

theorem not_keeps_indexRows {row : Row}
    (ha : row.get? "__rowIdx" ≠ some (.literal (.plain "a")))
    (hb : row.get? "__rowIdx" ≠ some (.literal (.plain "b"))) :
    ∀ input ∈ indexRows, ¬ row.Keeps input := by
  intro input hinput
  rcases List.mem_cons.1 hinput with rfl | hinput
  · exact not_keeps "__rowIdx" (.literal (.plain "a")) (by decide +kernel) ha
  · obtain rfl := List.mem_singleton.1 hinput
    exact not_keeps "__rowIdx" (.literal (.plain "b")) (by decide +kernel) hb

end ServiceClause
