import ServiceClause.Proofs.Batch.Silent

/-!
# What silencing a clause changes

The same clause is compared with itself, once as one that reports failures and once as a silent one,
for a batch that starts in the same state of the endpoint. Up to the first error both give the same
rows and make the same calls; so where there is no error, they cannot be told apart, and a malformed
query is the first error of both.

## Main definitions

* `ServiceClause.Descriptor.withSilent` — the same clause, silent or not.
* `ServiceClause.Silenced` — how what a silent clause gives differs from what it would give
  otherwise.

## Main statements

* `ServiceClause.Silenced.append`, `ServiceClause.silenced_resultsThen` — one thing after another.
* `ServiceClause.silenced_evaluateBatch` — batches differ in this way only.
-/

set_option autoImplicit false

namespace ServiceClause

/-- The same clause, silent or not. -/
def Descriptor.withSilent (d : Descriptor) (silent : Bool) : Descriptor := { d with silent }

/-! ## Two runs -/

section

variable {τ : Type}

/-- How items and the state of the endpoint after them, given by a silent clause, differ from those
that the clause gives otherwise, which come first. -/
inductive Silenced : List Item × τ → List Item × τ → Prop where
  /-- Without an error there is no difference. -/
  | unharmed {r : List Item × τ} (hrows : firstError? r.1 = none) : Silenced r r
  /-- A malformed query is the first error of both. -/
  | malformed (rows : List Row) {e : FederationError} (he : e.isMalformed = true)
    (rest rest' : List Item) (w w' : τ) :
    Silenced (rows.map .ok ++ .error e :: rest, w) (rows.map .ok ++ .error e :: rest', w')
  /-- Another error comes after rows that both give. -/
  | hidden (rows : List Row) {e : FederationError} (he : e.isMalformed = false)
    (rest rest' : List Item) (w w' : τ) :
    Silenced (rows.map .ok ++ .error e :: rest, w) (rows.map .ok ++ rest', w')

/-- Items with an error are rows up to it. -/
theorem exists_eq_of_firstError {items : List Item} {e : FederationError}
    (h : firstError? items = some e) :
    ∃ (rows : List Row) (rest : List Item), items = rows.map .ok ++ .error e :: rest := by
  obtain ⟨rest, hrest⟩ := prefix_throughError items
  rw [throughError_eq_append h, List.append_assoc] at hrest
  exact ⟨_, rest, hrest.symm⟩

theorem firstError?_rows_append (rows : List Row) (e : FederationError) (rest : List Item) :
    firstError? (rows.map .ok ++ .error e :: rest) = some e :=
  firstError?_append rows _

theorem rowsBeforeError_rows_append (rows : List Row) (e : FederationError) (rest : List Item) :
    rowsBeforeError (rows.map .ok ++ .error e :: rest) = rows := by
  rw [rowsBeforeError_append]
  exact List.append_nil rows

theorem silentItems_append (rows : List Row) (items : List Item) :
    silentItems (rows.map .ok ++ items) = rows.map .ok ++ silentItems items := by
  induction rows with
  | nil => rfl
  | cons row rows ih => rw [List.map_cons, List.cons_append, silentItems, ih, List.cons_append]

/-- Nothing is changed by silencing where there is no difference. -/
theorem Silenced.refl (r : List Item × τ) : Silenced r r := by
  obtain ⟨items, w⟩ := r
  cases herror : firstError? items with
  | none => exact .unharmed herror
  | some e =>
    obtain ⟨rows, rest, rfl⟩ := exists_eq_of_firstError herror
    cases he : e.isMalformed with
    | true => exact .malformed rows he rest rest w w
    | false => exact .hidden rows he rest (.error e :: rest) w w

/-- Silenced items differ from the items in this way. -/
theorem silenced_silentItems (items : List Item) (w : τ) :
    Silenced (items, w) (silentItems items, w) := by
  cases herror : firstError? items with
  | none =>
    have hrows : silentItems items = items := by
      rw [eq_map_of_firstError herror, silentItems_rows]
    rw [hrows]
    exact .unharmed herror
  | some e =>
    obtain ⟨rows, rest, rfl⟩ := exists_eq_of_firstError herror
    rw [silentItems_append, silentItems]
    cases he : e.isMalformed with
    | true =>
      rw [if_pos rfl]
      exact .malformed rows he rest (silentItems rest) w w
    | false =>
      rw [if_neg (by simp)]
      exact .hidden rows he rest [] w w

/-- Silencing a second time makes no further difference. -/
theorem Silenced.silent_right {off on : List Item × τ} (h : Silenced off on) :
    Silenced off (silentItems on.1, on.2) := by
  cases h with
  | unharmed hrows => exact silenced_silentItems off.1 off.2
  | malformed rows he rest rest' w w' =>
    rw [silentItems_append, silentItems, if_pos he]
    exact .malformed rows he rest _ w w'
  | hidden rows he rest rest' w w' =>
    rw [silentItems_append]
    exact .hidden rows he rest _ w w'

/-- Rows before two things that differ in this way. -/
theorem Silenced.rows_append (rows : List Row) {off on : List Item × τ} (h : Silenced off on) :
    Silenced (rows.map .ok ++ off.1, off.2) (rows.map .ok ++ on.1, on.2) := by
  cases h with
  | unharmed hrows => exact .unharmed ((firstError?_append rows _).trans hrows)
  | malformed later he rest rest' w w' =>
    simp only [← List.append_assoc, ← List.map_append]
    exact .malformed (rows ++ later) he rest rest' w w'
  | hidden later he rest rest' w w' =>
    simp only [← List.append_assoc, ← List.map_append]
    exact .hidden (rows ++ later) he rest rest' w w'

/-- What comes after an error does not matter. -/
theorem Silenced.append {a a' : List Item} {w : τ} {off on : List Item × τ}
    (h : Silenced (a, w) (a', w)) (hnext : Silenced off on) :
    Silenced (a ++ off.1, off.2) (a' ++ on.1, on.2) := by
  cases h with
  | unharmed hrows =>
    have hmap : a = (rowsBeforeError a).map .ok := eq_map_of_firstError hrows
    rw [hmap]
    exact hnext.rows_append _
  | malformed rows he rest rest' =>
    rw [List.append_assoc, List.append_assoc, List.cons_append, List.cons_append]
    exact .malformed rows he _ _ _ _
  | hidden rows he rest rest' =>
    rw [List.append_assoc, List.append_assoc, List.cons_append]
    exact .hidden rows he _ _ _ _

theorem resultsThen_rows_append (next : τ → List Item × τ) (rows : List Row) (items : List Item)
    (w : τ) :
    resultsThen next (rows.map .ok ++ items) w =
      (rows.map .ok ++ (resultsThen next items w).1, (resultsThen next items w).2) := by
  induction rows with
  | nil => rfl
  | cons row rows ih => rw [List.map_cons, List.cons_append, resultsThen_cons_ok, ih]; rfl

/-- The results of a block and what is delivered after them differ in this way if both do. -/
theorem silenced_resultsThen {next next' : τ → List Item × τ}
    (hnext : ∀ w, Silenced (next w) (next' w)) {off on : List Item × τ} (h : Silenced off on) :
    Silenced (resultsThen next off.1 off.2) (resultsThen next' on.1 on.2) := by
  cases h with
  | unharmed hrows =>
    simp only [resultsThen, hrows, Option.isSome_none, Bool.false_eq_true, if_false]
    rw [eq_map_of_firstError hrows]
    exact (hnext off.2).rows_append _
  | malformed rows he rest rest' w w' =>
    rw [resultsThen_rows_append, resultsThen_rows_append, resultsThen_cons_error,
      resultsThen_cons_error]
    exact .malformed rows he [] [] w w'
  | hidden rows he rest rest' w w' =>
    rw [resultsThen_rows_append, resultsThen_rows_append, resultsThen_cons_error]
    exact .hidden rows he [] _ w _

/-! ## What follows from the difference -/

theorem Silenced.eq_of_none {off on : List Item × τ} (h : Silenced off on)
    (hrows : firstError? off.1 = none) : on = off := by
  cases h with
  | unharmed _ => rfl
  | malformed rows he rest rest' w w' =>
    rw [firstError?_rows_append] at hrows
    simp at hrows
  | hidden rows he rest rest' w w' =>
    rw [firstError?_rows_append] at hrows
    simp at hrows

/-- The rows before the first error are a beginning of what the silent clause gives. -/
theorem Silenced.rows_prefix {off on : List Item × τ} (h : Silenced off on) {rows : List Row}
    {e : FederationError} (hoff : off.1 = rows.map .ok ++ [.error e]) :
    rows.map .ok <+: on.1 := by
  have hbefore : rowsBeforeError off.1 = rows := by
    rw [hoff, rowsBeforeError_rows_append]
  cases h with
  | unharmed _ =>
    rw [hoff]
    exact List.prefix_append _ _
  | malformed later he rest rest' w w' =>
    rw [← hbefore, rowsBeforeError_rows_append]
    exact List.prefix_append _ _
  | hidden later he rest rest' w w' =>
    rw [← hbefore, rowsBeforeError_rows_append]
    exact List.prefix_append _ _

/-- A malformed query that ends one is the end of the other too, and after the same rows. -/
theorem Silenced.throughError_eq {off on : List Item × τ} (h : Silenced off on)
    {e : FederationError} (herror : firstError? off.1 = some e) (he : e.isMalformed = true) :
    throughError on.1 = throughError off.1 := by
  cases h with
  | unharmed _ => rfl
  | malformed rows _ rest rest' w w' =>
    rw [throughError_eq_append (firstError?_rows_append rows _ rest'),
      throughError_eq_append (firstError?_rows_append rows _ rest), rowsBeforeError_rows_append,
      rowsBeforeError_rows_append]
  | hidden rows hother rest rest' w w' =>
    rw [firstError?_rows_append] at herror
    obtain rfl := Option.some.inj herror
    rw [he] at hother
    simp at hother

end

/-! ## One batch -/

section

variable {σ : Type} (service : Service σ)

theorem hides_of_not_silent {d : Descriptor} (h : d.silent = false) (e : FederationError) :
    d.hides e = false := by
  rw [Descriptor.hides, h, Bool.false_and]

/-- A batch that fails as a whole. -/
theorem silenced_recover (d : Descriptor) (batch : List Row) (e : FederationError) (w : σ) :
    Silenced (outcomeItems (recover (d.withSilent false) batch e), w)
      (outcomeItems (recover (d.withSilent true) batch e), w) := by
  have hoff : outcomeItems (recover (d.withSilent false) batch e) = [.error e] := by
    rw [recover, hides_of_not_silent rfl]
    rfl
  rw [hoff]
  cases he : e.isMalformed with
  | true =>
    rw [outcomeItems_recover_malformed rfl batch he]
    exact .malformed [] he [] [] w w
  | false =>
    rw [outcomeItems_recover rfl batch he]
    exact .hidden [] he [] _ w w

/-- Rows that are answered. -/
theorem silenced_silentIf (d : Descriptor) (rows : RowSequence) (w : σ) :
    Silenced ((rows.silentIf (d.withSilent false).silent).toList, w)
      ((rows.silentIf (d.withSilent true).silent).toList, w) := by
  rw [RowSequence.toList_silentIf, RowSequence.toList_silentIf]
  exact silenced_silentItems rows.toList w

/-- The first row of a retry and, unless its error is not hidden, the others. -/
theorem runToEnd_retryParts_cons (d : Descriptor) (query : String) (rowIndex : Name) (row : Row)
    (rest : List Row) (w : σ) :
    (retryParts d query rowIndex (row :: rest)).runToEnd service w =
      match (evaluateSelect query row d.base? d.declared).runToEnd service w with
      | (.ok rows, w') =>
        (((rows.strip rowIndex).silentIf d.silent) ::
            ((retryParts d query rowIndex rest).runToEnd service w').1,
          ((retryParts d query rowIndex rest).runToEnd service w').2)
      | (.error e, w') =>
        if d.hides e then
          (.one row :: ((retryParts d query rowIndex rest).runToEnd service w').1,
            ((retryParts d query rowIndex rest).runToEnd service w').2)
        else ([.failing e], w') := by
  rw [retryParts]
  show ((evaluateSelect query row d.base? d.declared).bind _).runToEnd service w = _
  rw [Evaluation.runToEnd_bind]
  cases (evaluateSelect query row d.base? d.declared).runToEnd service w with
  | mk outcome w' =>
    cases outcome with
    | ok rows => exact Evaluation.runToEnd_map service _ _ w'
    | error e =>
      simp only
      split
      · exact Evaluation.runToEnd_map service _ _ w'
      · rfl

/-- Rows tried one by one.

**Proof sketch.** Induction on the rows. Both runs send the same queries until a row fails, with
which the one ends and the other may go on. -/
theorem silenced_retryParts (d : Descriptor) (query : String) (rowIndex : Name) (rows : List Row)
    (w : σ) :
    Silenced
      (((retryParts (d.withSilent false) query rowIndex rows).runToEnd service w).1.flatMap
        RowSequence.toList,
        ((retryParts (d.withSilent false) query rowIndex rows).runToEnd service w).2)
      (((retryParts (d.withSilent true) query rowIndex rows).runToEnd service w).1.flatMap
        RowSequence.toList,
        ((retryParts (d.withSilent true) query rowIndex rows).runToEnd service w).2) := by
  induction rows generalizing w with
  | nil => exact .refl _
  | cons row rest ih =>
    have hrow : (evaluateSelect query row (d.withSilent false).base?
        (d.withSilent false).declared).runToEnd service w =
          (evaluateSelect query row (d.withSilent true).base?
            (d.withSilent true).declared).runToEnd service w := rfl
    rw [runToEnd_retryParts_cons, runToEnd_retryParts_cons, hrow]
    cases (evaluateSelect query row (d.withSilent true).base?
        (d.withSilent true).declared).runToEnd service w with
    | mk outcome w' =>
      cases outcome with
      | ok rows =>
        simp only [List.flatMap_cons]
        exact (silenced_silentIf d (rows.strip rowIndex) w').append (ih w')
      | error e =>
        simp only [hides_of_not_silent (show (d.withSilent false).silent = false from rfl),
          hides_of_silent (show (d.withSilent true).silent = true from rfl), Bool.false_eq_true,
          if_false]
        cases he : e.isMalformed with
        | true => simpa using Silenced.malformed [] he [] [] w' w'
        | false => simpa using Silenced.hidden [] he [] _ w' _

/-- A clause that declares the row index is refused, silent or not. -/
theorem evaluateBatch_withSilent_of_reserved {config : Config} {d : Descriptor}
    (hindex : config.rowIndex ∈ d.declared) (batch : List Row) :
    evaluateBatch config (d.withSilent false) batch =
      evaluateBatch config (d.withSilent true) batch := by
  have hindex' : ∀ silent, config.rowIndex ∈ (d.withSilent silent).declared := fun _ => hindex
  cases batch with
  | nil => rfl
  | cons first rest =>
    rw [evaluateBatch_of_reserved (hindex' false), evaluateBatch_of_reserved (hindex' true)]
    rfl

/-- What an evaluation that comes to an outcome gives, and the state in which it leaves the
endpoint. -/
def runItems (e : Evaluation (Outcome RowSequence)) (w : σ) : List Item × σ :=
  (outcomeItems (e.runToEnd service w).1, (e.runToEnd service w).2)

/-- Rows that are tried one by one after a query for all of them. -/
theorem silenced_retry (d : Descriptor) (query : String) (rowIndex : Name) (rows : List Row)
    (w : σ) :
    Silenced
      (runItems service ((retry (d.withSilent false) query rowIndex rows).map fun rows =>
        .ok (rows.silentIf (d.withSilent false).silent)) w)
      (runItems service ((retry (d.withSilent true) query rowIndex rows).map fun rows =>
        .ok (rows.silentIf (d.withSilent true).silent)) w) := by
  have hitems : ∀ silent, runItems service
      ((retry (d.withSilent silent) query rowIndex rows).map fun rows =>
        .ok (rows.silentIf silent)) w =
      ((if silent then silentItems else id)
        (((retryParts (d.withSilent silent) query rowIndex rows).runToEnd service w).1.flatMap
          RowSequence.toList),
        ((retryParts (d.withSilent silent) query rowIndex rows).runToEnd service w).2) := by
    intro silent
    rw [runItems, Evaluation.runToEnd_map, retry, Evaluation.runToEnd_map]
    cases silent <;> simp [outcomeItems]
  have hparts := silenced_retryParts service d query rowIndex rows w
  have hsilenced := hparts.silent_right
  exact (hitems false).symm ▸ (hitems true).symm ▸ hsilenced

/-- A single row. -/
theorem silenced_single (config : Config) (d : Descriptor) (hindex : config.rowIndex ∉ d.declared)
    (row : Row) (w : σ) :
    Silenced (runItems service (evaluateBatch config (d.withSilent false) [row]) w)
      (runItems service (evaluateBatch config (d.withSilent true) [row]) w) := by
  have hbatch : ∀ silent, evaluateBatch config (d.withSilent silent) [row] =
      (evaluateSelect (d.render (d.projection row.nameSet)) row d.base? d.declared).map
        (singleOutcome (d.withSilent silent) row) :=
    fun silent => evaluateBatch_single (d := d.withSilent silent) hindex row
  rw [hbatch, hbatch, runItems, runItems, Evaluation.runToEnd_map, Evaluation.runToEnd_map]
  cases (evaluateSelect (d.render (d.projection row.nameSet)) row d.base? d.declared).runToEnd
      service w with
  | mk outcome w' =>
    cases outcome with
    | ok rows => exact silenced_silentIf d rows w'
    | error e => exact silenced_recover d [row] e w'

/-- Several rows. -/
theorem silenced_several (config : Config) (d : Descriptor)
    (hindex : config.rowIndex ∉ d.declared) (first second : Row) (rest : List Row) (w : σ) :
    Silenced (runItems service (evaluateBatch config (d.withSilent false)
        (first :: second :: rest)) w)
      (runItems service (evaluateBatch config (d.withSilent true)
        (first :: second :: rest)) w) := by
  have hindex' : ∀ silent, config.rowIndex ∉ (d.withSilent silent).declared := fun _ => hindex
  have htogether : ∀ silent, togetherText (d.withSilent silent) config (first :: second :: rest) =
      togetherText d config (first :: second :: rest) := fun _ => rfl
  cases htext : togetherText d config (first :: second :: rest) with
  | error e =>
    rw [evaluateBatch_of_togetherText_error (hindex' false) ((htogether false).trans htext),
      evaluateBatch_of_togetherText_error (hindex' true) ((htogether true).trans htext)]
    exact silenced_recover d _ e w
  | ok text =>
    rw [evaluateBatch_of_togetherText (hindex' false) ((htogether false).trans htext),
      evaluateBatch_of_togetherText (hindex' true) ((htogether true).trans htext)]
    have hcall : togetherCall (d.withSilent false) config text =
        togetherCall (d.withSilent true) config text := rfl
    simp only [runItems, Evaluation.runToEnd, Evaluation.run, hcall]
    cases ((service.select (togetherCall (d.withSilent true) config text) w).1.within
        (togetherCall (d.withSilent true) config text).budget?).value with
    | ok solutions => exact silenced_silentIf d _ _
    | error e =>
      simp only
      split
      · exact silenced_retry service d _ _ _ _
      · exact silenced_recover d _ e _

/-- **Batches differ in this way only.** A batch of a clause and of the same clause made silent,
evaluated in the same state of the endpoint, give the same up to the first error.

**Proof sketch.** The cases are those of the definition. The queries do not depend on whether the
clause is silent; what they are answered is silenced, and what fails is recovered. -/
theorem silenced_evaluateBatch (config : Config) (d : Descriptor) (batch : List Row) (w : σ) :
    Silenced (runItems service (evaluateBatch config (d.withSilent false) batch) w)
      (runItems service (evaluateBatch config (d.withSilent true) batch) w) := by
  by_cases hindex : config.rowIndex ∈ d.declared
  · rw [evaluateBatch_withSilent_of_reserved hindex]
    exact .refl _
  · match batch with
    | [] => exact .refl _
    | [row] => exact silenced_single service config d hindex row w
    | first :: second :: rest =>
      exact silenced_several service config d hindex first second rest w

end

end ServiceClause
