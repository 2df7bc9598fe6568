import Mathlib.Data.List.TakeWhile
import ServiceClause.Proofs.Batch.Sent
import ServiceClause.Proofs.NameCharacters
import ServiceClause.Proofs.Query.Kept
import ServiceClause.Query.Pattern

/-!
# The name of the row index in a retry

The query that a batch sends for all of its rows selects the row index. When the rows are sent one
by one, their values are put into the same query, and the row index has to stay selected. It does if
its name is read as the name of a variable, which the settings allow for more names than queries do.

## Main definitions

* `ServiceClause.PatternQuery.columnsBefore`, `ServiceClause.PatternQuery.columnsAfter` — what
  stands before and after one of the variables to select.
* `ServiceClause.PatternQuery.KeepsColumn` — whether it stays as it is.

## Main statements

* `ServiceClause.PatternQuery.exists_columns` — where a variable to select stands.
* `ServiceClause.exists_preBind_of_retry` — what the calls of a retry are made from.
* `ServiceClause.rowIndex_kept_iff` — when the row index stays selected.
-/

set_option autoImplicit false

namespace ServiceClause

/-! ## Variables to select -/

namespace PatternQuery

variable {q : PatternQuery} {projection : NameSet} {n : Name}

/-- A variable to select, as it stands before the next one or before the pattern. -/
def column (n : Name) : List Char := '?' :: (n.toList ++ [' '])

/-- What stands before a variable to select: the prefixes, the keyword and the variables
`earlier`. -/
def columnsBefore (q : PatternQuery) (earlier : List Name) : List Char :=
  (String.join (q.prefixes.map prefixLine) ++ "SELECT ").toList ++ earlier.flatMap column

/-- What stands after a variable to select: the variables `later` and the pattern. -/
def columnsAfter (q : PatternQuery) (later : List Name) : List Char :=
  later.flatMap column ++ ("WHERE \x7b " ++ trim q.pattern ++ " \x7d").toList

/-- Whether a variable to select, with the space after it, stays as it is where variables give way
to values. -/
def KeepsColumn (q : PatternQuery) (value : Name → Option String) (earlier : List Name) (n : Name)
    (later : List Name) : Prop :=
  Token.Kept value (q.columnsBefore earlier) (column n) (q.columnsAfter later)

/-- The variables to select, each with the space after it. -/
theorem selection_append_space (h : projection.toList ≠ []) :
    (selection projection).toList ++ [' '] = projection.toList.flatMap column := by
  have hnames : ∀ names : List Name, names ≠ [] →
      [' '].intercalate (names.map fun n => '?' :: n.toList) ++ [' '] = names.flatMap column := by
    intro names hne
    induction names with
    | nil => exact absurd rfl hne
    | cons n names ih =>
      cases names with
      | nil => simp [column]
      | cons m names =>
        have hrest := ih (by simp)
        rw [List.flatMap_cons, ← hrest]
        simp [List.intercalate_cons_cons, column]
  have hempty : projection.isEmpty = false := by simpa [NameSet.isEmpty] using h
  rw [selection, hempty, ← hnames _ h]
  simp [String.toList_intercalate, Function.comp_def]

/-- A variable to select stands between others, if there are any, and a space follows it. -/
theorem exists_columns (h : n ∈ projection) : ∃ earlier later,
    projection.toList = earlier ++ n :: later ∧ (q.render projection).toList =
      q.columnsBefore earlier ++ (column n ++ q.columnsAfter later) := by
  obtain ⟨earlier, later, hparts⟩ := List.append_of_mem (NameSet.mem_iff.1 h)
  refine ⟨earlier, later, hparts, ?_⟩
  have hne : projection.toList ≠ [] := by simp [hparts]
  have hrender : (q.render projection).toList =
      (String.join (q.prefixes.map prefixLine) ++ "SELECT ").toList ++
        (((selection projection).toList ++ [' ']) ++
          ("WHERE \x7b " ++ trim q.pattern ++ " \x7d").toList) := by
    simp [render]
  rw [hrender, selection_append_space hne, hparts, List.flatMap_append, List.flatMap_cons,
    columnsBefore, columnsAfter]
  simp only [List.append_assoc]

end PatternQuery

/-! ## Calls of a retry -/

theorem preBind_of_rowCall? {d : Descriptor} {query : String} {row : Row} {call : Call}
    (h : rowCall? d query row = some call) : preBind query row d.declared = .ok call.query := by
  unfold rowCall? at h
  cases hbind : preBind query row d.declared with
  | error e => simp [hbind, Except.toOption] at h
  | ok text =>
    rw [hbind] at h
    exact congrArg (fun call : Call => Except.ok call.query) (Option.some.inj h)

/-- The calls after the first one of a batch are made from the query for all of its rows, which the
values of one row are put into. -/
theorem exists_preBind_of_retry {σ : Type} (config : Config) (d : Descriptor) (batch : List Row)
    (service : Service σ) (cancelled : σ × List Exchange → Bool) (w : σ) :
    ∀ call ∈ (((evaluateBatch config d batch).exchanges service cancelled w).map
        Exchange.call).tail,
      ∃ row ∈ batch, preBind (togetherQuery d config batch) row d.declared = .ok call.query := by
  obtain ⟨outcome, htrace⟩ := (evaluateBatch config d batch).trace_exchanges service cancelled w
  have hsends := (batchRun_of_trace htrace).sends
  generalize (evaluateBatch config d batch).exchanges service cancelled w = log at hsends
  intro call hcall
  have hlog : log ≠ [] := by
    rintro rfl
    cases hcall
  have hquiet := mt hsends.quiet hlog
  simp only [not_or, not_and] at hquiet
  obtain ⟨hne, hindex, hblank⟩ := hquiet
  by_cases hlength : 2 ≤ batch.length
  · obtain ⟨values, answer, further, -, rfl, -, k, hk⟩ :=
      hsends.together hlength hindex (hblank hlength)
    rw [List.map_cons, List.tail_cons, hk] at hcall
    obtain ⟨row, hrow, hrowCall⟩ := List.mem_filterMap.1 hcall
    exact ⟨row, List.mem_of_mem_take hrow, preBind_of_rowCall? hrowCall⟩
  · obtain ⟨row, rfl⟩ : ∃ row, batch = [row] := by
      cases batch with
      | nil => exact absurd rfl hne
      | cons row rest =>
        cases rest with
        | nil => exact ⟨row, rfl⟩
        | cons second rest => simp at hlength
    rw [hsends.single row rfl hindex] at hcall
    cases hrowCall : rowCall? d (d.render (unboundNames d [row])) row <;>
      simp [hrowCall] at hcall

/-! ## Main result -/

theorem notMem_opening_of_isNameCharacter {c : Char} (h : isNameCharacter c = true) :
    c ∉ Token.opening :=
  Token.notMem_of_all (by decide +kernel) h

/-- **When a retry leaves the row index selected.** Take acceptable settings, a clause with a
pattern that does not declare the row index, and a batch. In the query for all rows the row index is
one of the variables to select, and a space follows it; the calls after the first one are made from
this query by putting in the values of one row.

* With its question mark and before a space, the row index is read as one variable with exactly its
  name if and only if the name is made of characters of words. All its characters are, but for
  numerals that are neither digits nor alphabetic and what Unicode took in last.
* If they all are, the row index stays as it is, whatever the row.
* In general it stays as it is if and only if its question mark does not begin a variable with a
  value, whose name is the word that the name of the row index begins with. It then stands, with the
  space, in the text that is sent.

**Proof sketch.** The variables to select stand one after another (`PatternQuery.exists_columns`),
and a name before a space is kept unless the word that it begins with has a value
(`Token.kept_iff`). If this word is the whole name it has none, since the clause does not declare
it. The classes of characters are compared by `isWord_iff_of_isNameCharacter`. -/
theorem rowIndex_kept_iff (config : Config) (q : PatternQuery) (d : Descriptor) (batch : List Row)
    (hvalid : config.validate = .ok ()) (hrender : d.render = q.render)
    (hindex : config.rowIndex ∉ d.declared) :
    ∃ earlier later,
      ((unboundNames d batch).insert config.rowIndex).toList =
          earlier ++ config.rowIndex :: later ∧
      (togetherQuery d config batch).toList = q.columnsBefore earlier ++
          (PatternQuery.column config.rowIndex ++ q.columnsAfter later) ∧
      (∀ (σ : Type) (service : Service σ) (cancelled : σ × List Exchange → Bool) (w : σ),
        ∀ call ∈ (((evaluateBatch config d batch).exchanges service cancelled w).map
            Exchange.call).tail,
          ∃ row ∈ batch,
            preBind (togetherQuery d config batch) row d.declared = .ok call.query) ∧
      (∀ rest, Token.first '?' (config.rowIndex.toList ++ ' ' :: rest) =
          (.var '?' config.rowIndex.toList, config.rowIndex.toList.length) ↔
        ∀ c ∈ config.rowIndex.toList, isWord c = true) ∧
      (∀ c ∈ config.rowIndex.toList, isWord c = true ↔
        isOtherNumeral c = false ∧ CodeRange.covers recentTable c = false) ∧
      ∀ row : Row,
        ((∀ c ∈ config.rowIndex.toList, isWord c = true) →
          q.KeepsColumn (row.substitute? d.declared) earlier config.rowIndex later) ∧
        (q.KeepsColumn (row.substitute? d.declared) earlier config.rowIndex later ↔
          ∀ pieces more, Token.scan (togetherQuery d config batch).toList =
              pieces ++ .var '?' (config.rowIndex.toList.takeWhile isWord) :: more →
            pieces.flatMap Token.chars = q.columnsBefore earlier →
              row.substitute? d.declared
                (String.ofList (config.rowIndex.toList.takeWhile isWord)) = none) ∧
        (q.KeepsColumn (row.substitute? d.declared) earlier config.rowIndex later →
          ∀ text, preBind (togetherQuery d config batch) row d.declared = .ok text →
            ∃ before after,
              text.toList = before ++ (PatternQuery.column config.rowIndex ++ after)) := by
  obtain ⟨hne, hcharacters⟩ := Config.isNameCharacter_of_validate hvalid
  have hopening : ∀ c ∈ config.rowIndex.toList, c ∉ Token.opening := fun c hc =>
    notMem_opening_of_isNameCharacter (hcharacters c hc)
  obtain ⟨earlier, later, hnames, htext⟩ := PatternQuery.exists_columns (q := q)
    (NameSet.mem_insert.2 (.inl rfl) : config.rowIndex ∈ (unboundNames d batch).insert _)
  have hquery : (togetherQuery d config batch).toList = q.columnsBefore earlier ++
      (PatternQuery.column config.rowIndex ++ q.columnsAfter later) := by
    rw [← htext, ← hrender]
    rfl
  refine ⟨earlier, later, hnames, hquery,
    fun σ service cancelled w => exists_preBind_of_retry config d batch service cancelled w,
    Token.first_mark_eq_iff hne, fun c hc => isWord_iff_of_isNameCharacter (hcharacters c hc),
    fun row => ?_⟩
  have hkept : q.KeepsColumn (row.substitute? d.declared) earlier config.rowIndex later ↔ _ :=
    Token.kept_iff hopening
  refine ⟨fun hword => hkept.2 fun pieces more _ _ => ?_, ?_,
    fun h text => preBind_of_kept hquery h⟩
  · rw [List.takeWhile_eq_self_iff.2 hword, String.ofList_toList, Row.substitute?, if_neg hindex]
  · rw [hquery]
    exact hkept

/-- A pattern with two variables. -/
def links : PatternQuery := ⟨[], "?x <http://example.org/p> ?y"⟩

/-- A clause that declares both. -/
def linked : Descriptor :=
  ⟨"http://remote.example/sparql", .ofList ["x", "y"], false, none, links.render⟩

/-- A row that binds the first one. -/
def linkedRow : Row := Row.empty.insert "x" (.iri "http://example.org/a")

/-- With the default name the row index stays selected. -/
theorem default_index_kept :
    (∃ earlier later, links.KeepsColumn (linkedRow.substitute? linked.declared) earlier "__rowIdx"
      later) ∧
    preBind (togetherQuery linked {} [linkedRow, linkedRow]) linkedRow linked.declared =
      .ok ("SELECT ?__rowIdx ?y " ++
        "WHERE \x7b <http://example.org/a> <http://example.org/p> ?y \x7d") := by
  obtain ⟨earlier, later, -, -, -, -, -, hrow⟩ := rowIndex_kept_iff {} links linked
    [linkedRow, linkedRow] (by decide +kernel) rfl (by decide +kernel)
  have hdefault : "__rowIdx".toList.all isWord = true := by decide +kernel
  exact ⟨⟨earlier, later, (hrow linkedRow).1 (List.all_eq_true.1 hdefault)⟩, by decide +kernel⟩

/-- Acceptable settings whose name for the row index is not read as a variable. -/
def squaredIndex : Config := { rowIndex := "x\u00b2" }

/-- With this name the value of another variable is put into the row index. -/
theorem squared_index_replaced :
    squaredIndex.validate = .ok () ∧ squaredIndex.rowIndex ∉ linked.declared ∧
      Token.first '?' (squaredIndex.rowIndex.toList ++ [' ']) = (.var '?' ['x'], 1) ∧
      preBind (togetherQuery linked squaredIndex [linkedRow, linkedRow]) linkedRow
          linked.declared =
        .ok ("SELECT (<http://example.org/a> AS ?x)\u00b2 ?y " ++
          "WHERE \x7b <http://example.org/a> <http://example.org/p> ?y \x7d") ∧
      ¬ links.KeepsColumn (linkedRow.substitute? linked.declared) [] squaredIndex.rowIndex
        ["y"] := by
  refine ⟨by decide +kernel, by decide +kernel, by decide +kernel, by decide +kernel, fun h => ?_⟩
  have hopening : squaredIndex.rowIndex.toList.all (fun c => !Token.opening.contains c) = true := by
    decide
  have hnone := (Token.kept_iff (by simpa using hopening)).1 h ("SELECT ".toList.map .other)
    ((Token.scan (togetherQuery linked squaredIndex [linkedRow, linkedRow]).toList).drop 8)
    (by decide +kernel) (by decide +kernel)
  revert hnone
  decide +kernel

end ServiceClause
