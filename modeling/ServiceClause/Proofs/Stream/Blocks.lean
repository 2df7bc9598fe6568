import ServiceClause.Stream.Reference

/-!
# The reference of a stream, block by block

The reference of a stream is defined on the whole source at once. Here it is unfolded from the
front: the first full block is evaluated, and what follows it is the reference of the rest.

## Main definitions

* `ServiceClause.resultsThen`, `ServiceClause.outcomeThen` — the results of a block and what comes
  after them.
* `ServiceClause.Dispatch.blocks`, `ServiceClause.Dispatch.ending` — the blocks that are evaluated
  and what comes after all of them.

## Main statements

* `ServiceClause.flatten_batches`, `ServiceClause.length_of_mem_dropLast_batches` — how rows are cut.
* `ServiceClause.Dispatch.reference_block` — the reference of a source that begins with a full
  block.
* `ServiceClause.Dispatch.throughError_reference` — an error is the last item of a reference.
-/

set_option autoImplicit false

namespace ServiceClause

/-! ## Rows cut into blocks -/

theorem batches_nil (n : Nat) : batches n [] = [] := by
  rw [batches]

/-- A full block at the front is the first block of the cut. -/
theorem batches_append {n : Nat} {block : List Row} (hn : 0 < n) (h : block.length = n)
    (rows : List Row) : batches n (block ++ rows) = block :: batches n rows := by
  cases block with
  | nil =>
    simp only [List.length_nil] at h
    omega
  | cons row block =>
    have hlen : block.length = n - 1 := by
      simp only [List.length_cons] at h
      omega
    rw [List.cons_append, batches, ← hlen, List.take_left, List.drop_left]

/-- Rows that fit into one block are one block. -/
theorem batches_of_length_le {n : Nat} {block : List Row} (hne : block ≠ [])
    (h : block.length ≤ n) : batches n block = [block] := by
  cases block with
  | nil => exact absurd rfl hne
  | cons row block =>
    have hlen : block.length ≤ n - 1 := by
      simp only [List.length_cons] at h
      omega
    rw [batches, List.take_of_length_le hlen, List.drop_eq_nil_of_le hlen, batches_nil]

/-- The blocks put together are the rows. -/
theorem flatten_batches (n : Nat) (rows : List Row) : (batches n rows).flatten = rows := by
  fun_induction batches n rows with
  | case1 => rfl
  | case2 row rows ih => rw [List.flatten_cons, ih, List.cons_append, List.take_append_drop]

/-- No block is empty, and none is longer than asked for. -/
theorem length_of_mem_batches {n : Nat} (hn : 0 < n) {rows : List Row} {block : List Row}
    (h : block ∈ batches n rows) : 0 < block.length ∧ block.length ≤ n := by
  fun_induction batches n rows with
  | case1 => simp at h
  | case2 row rows ih =>
    rcases List.mem_cons.1 h with rfl | h
    · simp only [List.length_cons, List.length_take]
      omega
    · exact ih h

/-- Only the last block may be shorter. -/
theorem length_of_mem_dropLast_batches {n : Nat} (hn : 0 < n) {rows : List Row} {block : List Row}
    (h : block ∈ (batches n rows).dropLast) : block.length = n := by
  fun_induction batches n rows with
  | case1 => simp at h
  | case2 row rows ih =>
    by_cases hrest : rows.drop (n - 1) = []
    · rw [hrest, batches_nil] at h
      simp at h
    · have hcut : batches n (rows.drop (n - 1)) ≠ [] := by
        intro hnil
        have := flatten_batches n (rows.drop (n - 1))
        rw [hnil] at this
        exact hrest this.symm
      rw [List.dropLast_cons_of_ne_nil hcut] at h
      rcases List.mem_cons.1 h with rfl | h
      · have hlen : n - 1 < rows.length := by
          rw [← Nat.not_le]
          exact fun hle => hrest (List.drop_eq_nil_of_le hle)
        simp only [List.length_cons, List.length_take]
        omega
      · exact ih h

/-! ## Items up to the first error -/

theorem throughError_throughError (items : List Item) :
    throughError (throughError items) = throughError items := by
  induction items with
  | nil => rfl
  | cons item items ih =>
    cases item with
    | ok row => rw [throughError, throughError, ih]
    | error e => rfl

theorem throughError_append {items : List Item} (h : firstError? items = none)
    (rest : List Item) : throughError (items ++ rest) = items ++ throughError rest := by
  induction items with
  | nil => rfl
  | cons item items ih =>
    cases item with
    | ok row => rw [List.cons_append, throughError, ih h, List.cons_append]
    | error e => simp [firstError?] at h

/-- Nothing follows an error in a list that ends with its first error. -/
theorem eq_nil_of_throughError {before after : List Item} {e : FederationError}
    (h : throughError (before ++ .error e :: after) = before ++ .error e :: after) :
    after = [] := by
  induction before with
  | nil => simpa [throughError] using h.symm
  | cons item before ih =>
    cases item with
    | ok row => exact ih (by simpa [throughError] using h)
    | error f => simp [throughError] at h

theorem rowsBeforeError_append (rows : List Row) (items : List Item) :
    rowsBeforeError (rows.map .ok ++ items) = rows ++ rowsBeforeError items := by
  induction rows with
  | nil => rfl
  | cons row rows ih => rw [List.map_cons, List.cons_append, rowsBeforeError, ih, List.cons_append]

theorem firstError?_append (rows : List Row) (items : List Item) :
    firstError? (rows.map .ok ++ items) = firstError? items := by
  induction rows with
  | nil => rfl
  | cons row rows ih => rw [List.map_cons, List.cons_append, firstError?, ih]

/-- A source without an error consists of its rows. -/
theorem eq_map_of_firstError {source : List Item} (h : firstError? source = none) :
    source = (rowsBeforeError source).map .ok := by
  induction source with
  | nil => rfl
  | cons item source ih =>
    cases item with
    | ok row =>
      rw [rowsBeforeError, List.map_cons, ← ih h]
    | error e => simp [firstError?] at h

theorem exists_firstError {items : List Item} {e : FederationError} (h : .error e ∈ items) :
    ∃ f, firstError? items = some f ∧ .error f ∈ items := by
  induction items with
  | nil => simp at h
  | cons item items ih =>
    cases item with
    | error f => exact ⟨f, rfl, List.mem_cons_self⟩
    | ok row =>
      obtain ⟨f, hf, hmem⟩ := ih (by simpa using h)
      exact ⟨f, hf, List.mem_cons_of_mem _ hmem⟩

theorem throughError_eq_append {items : List Item} {e : FederationError}
    (h : firstError? items = some e) :
    throughError items = (rowsBeforeError items).map .ok ++ [.error e] := by
  induction items with
  | nil => simp [firstError?] at h
  | cons item items ih =>
    cases item with
    | ok row =>
      rw [throughError, rowsBeforeError, ih h]
      rfl
    | error f =>
      obtain rfl := Option.some.inj h
      rfl

theorem firstError?_append_eq_none {items rest : List Item} :
    firstError? (items ++ rest) = none ↔ firstError? items = none ∧ firstError? rest = none := by
  induction items with
  | nil => simp [firstError?]
  | cons item items ih =>
    cases item with
    | ok row => simpa [firstError?] using ih
    | error e => simp [firstError?]

theorem firstError?_throughError (items : List Item) :
    firstError? (throughError items) = firstError? items := by
  induction items with
  | nil => rfl
  | cons item items ih =>
    cases item with
    | ok row => simpa [firstError?, throughError] using ih
    | error e => rfl

theorem prefix_throughError (items : List Item) : throughError items <+: items := by
  induction items with
  | nil => exact List.prefix_rfl
  | cons item items ih =>
    cases item with
    | ok row =>
      rw [throughError]
      exact (List.prefix_cons_inj _).2 ih
    | error e =>
      rw [throughError]
      exact (List.prefix_cons_inj _).2 List.nil_prefix

theorem mem_of_firstError {items : List Item} {e : FederationError}
    (h : firstError? items = some e) : .error e ∈ items := by
  refine (prefix_throughError items).mem ?_
  rw [throughError_eq_append h]
  simp

/-- What comes before an error that ends items are rows. -/
theorem rows_of_last_error {items before : List Item} {e : FederationError}
    (hlast : throughError items = items) (h : items = before ++ [.error e]) :
    ∃ rows : List Row, before = rows.map .ok ∧ firstError? items = some e := by
  have hmem : .error e ∈ items := by
    rw [h]
    simp
  obtain ⟨f, hf, _⟩ := exists_firstError hmem
  rw [throughError_eq_append hf] at hlast
  obtain ⟨hrows, herror⟩ := List.append_inj' (h.symm.trans hlast.symm) rfl
  obtain rfl : e = f := by simpa using herror
  exact ⟨_, hrows, hf⟩

/-! ## Block by block -/

section Outcome

variable {σ : Type} (next : σ → List Item × σ)

/-- The results of a block, and what `next` delivers after them unless there is an error among
them. -/
def resultsThen (items : List Item) (w : σ) : List Item × σ :=
  if (firstError? items).isSome then (throughError items, w)
  else (items ++ (next w).1, (next w).2)

/-- What is delivered when the evaluation of a block has come to an outcome, and by `next` after
it. -/
def outcomeThen (outcome : Outcome RowSequence × σ) : List Item × σ :=
  match outcome with
  | (.error e, w) => ([.error e], w)
  | (.ok rows, w) => resultsThen next rows.toList w

theorem resultsThen_nil (w : σ) : resultsThen next [] w = next w := rfl

theorem resultsThen_cons_ok (row : Row) (items : List Item) (w : σ) :
    resultsThen next (.ok row :: items) w =
      (.ok row :: (resultsThen next items w).1, (resultsThen next items w).2) := by
  unfold resultsThen
  rw [firstError?]
  split
  · rw [throughError]
  · rw [List.cons_append]

theorem resultsThen_cons_error (e : FederationError) (items : List Item) (w : σ) :
    resultsThen next (.error e :: items) w = ([.error e], w) := rfl

variable {next}

/-- What is delivered without an error holds all results of the block. -/
theorem resultsThen_of_none {items : List Item} {w : σ}
    (h : firstError? (resultsThen next items w).1 = none) :
    firstError? items = none ∧
      resultsThen next items w = (items ++ (next w).1, (next w).2) := by
  unfold resultsThen at h ⊢
  cases hitems : firstError? items with
  | none => exact ⟨rfl, by simp⟩
  | some e =>
    rw [hitems, if_pos (by rfl), firstError?_throughError, hitems] at h
    simp at h

/-- An error is the last item of what is delivered if that holds of what follows the block. -/
theorem throughError_outcomeThen
    (h : ∀ w, throughError (next w).1 = (next w).1) (outcome : Outcome RowSequence × σ) :
    throughError (outcomeThen next outcome).1 = (outcomeThen next outcome).1 := by
  obtain ⟨e | rows, w⟩ := outcome
  · rfl
  · show throughError (resultsThen next rows.toList w).1 = (resultsThen next rows.toList w).1
    unfold resultsThen
    split
    · exact throughError_throughError _
    · next herror =>
      have hnone : firstError? rows.toList = none := by simpa using herror
      rw [throughError_append hnone, h]

end Outcome

namespace Dispatch

variable {σ : Type}

/-- The blocks of a source that are evaluated. -/
def blocks (d : Dispatch σ) (source : List Item) : List (List Row) :=
  match firstError? source with
  | none => batches d.config.blockSize (rowsBeforeError source)
  | some _ => (batches d.config.blockSize (rowsBeforeError source)).filter
      (·.length = d.config.blockSize)

/-- What comes after the results of all blocks. -/
def ending (source : List Item) : List Item :=
  match firstError? source with
  | none => []
  | some e => [.error e]

theorem reference_eq_deliver (d : Dispatch σ) (source : List Item) (w : σ) :
    d.reference source w = d.deliver (ending source) (d.blocks source) w := by
  unfold reference ending blocks
  cases firstError? source <;> rfl

theorem deliver_cons (d : Dispatch σ) (ending : List Item) (block : List Row)
    (rest : List (List Row)) (w : σ) :
    d.deliver ending (block :: rest) w =
      outcomeThen (d.deliver ending rest) ((d.evaluation block).runToEnd d.service w) := by
  rw [deliver]
  cases (d.evaluation block).runToEnd d.service w with
  | mk outcome w' => cases outcome <;> rfl

/-- Blocks that give no error are followed by the next ones.

**Proof sketch.** Induction on the first blocks. -/
theorem deliver_append (d : Dispatch σ) (ending : List Item) {done : List (List Row)}
    (rest : List (List Row)) {w : σ} (h : firstError? (d.deliver [] done w).1 = none) :
    d.deliver ending (done ++ rest) w =
      ((d.deliver [] done w).1 ++ (d.deliver ending rest (d.deliver [] done w).2).1,
        (d.deliver ending rest (d.deliver [] done w).2).2) := by
  induction done generalizing w with
  | nil => rw [List.nil_append, deliver]; rfl
  | cons block done ih =>
    rw [deliver_cons] at h
    rw [List.cons_append, deliver_cons, deliver_cons]
    cases hrun : (d.evaluation block).runToEnd d.service w with
    | mk outcome w' =>
      rw [hrun] at h
      cases outcome with
      | error e => simp [outcomeThen, firstError?] at h
      | ok rows =>
        simp only [outcomeThen] at h ⊢
        obtain ⟨hrows, hdone⟩ := resultsThen_of_none h
        rw [hdone] at h
        have hnone := (firstError?_append_eq_none.1 h).2
        rw [hdone, resultsThen, hrows, ih hnone]
        simp

theorem reference_nil (d : Dispatch σ) (w : σ) : d.reference [] w = ([], w) := by
  rw [reference_eq_deliver]
  unfold ending blocks
  rw [firstError?, rowsBeforeError, batches_nil, deliver]
  simp

/-- A full block at the front of a source is evaluated whether the source fails later or not. -/
theorem blocks_append (d : Dispatch σ) {block : List Row}
    (h : block.length = d.config.blockSize) (source : List Item) :
    d.blocks (block.map .ok ++ source) = block :: d.blocks source := by
  unfold blocks
  rw [firstError?_append, rowsBeforeError_append, batches_append d.config.blockSize_pos h]
  split
  · rfl
  · rw [List.filter_cons_of_pos (by simpa using h)]

/-- Full blocks at the front of a source are its first blocks. -/
theorem blocks_flatten_append (d : Dispatch σ) {done : List (List Row)}
    (h : ∀ block ∈ done, block.length = d.config.blockSize) (source : List Item) :
    d.blocks (done.flatten.map .ok ++ source) = done ++ d.blocks source := by
  induction done with
  | nil => rfl
  | cons block done ih =>
    have hdone := ih fun b hb => h b (List.mem_cons_of_mem _ hb)
    rw [List.flatten_cons, List.map_append, List.append_assoc,
      blocks_append d (h block List.mem_cons_self), hdone, List.cons_append]

/-- The reference of a source whose first block is full is the outcome of that block followed by
the reference of the rest. -/
theorem reference_block (d : Dispatch σ) {block : List Row}
    (h : block.length = d.config.blockSize) (source : List Item) (w : σ) :
    d.reference (block.map .ok ++ source) w =
      outcomeThen (d.reference source) ((d.evaluation block).runToEnd d.service w) := by
  have hrest : d.reference source = d.deliver (ending source) (d.blocks source) := by
    funext w
    exact d.reference_eq_deliver source w
  have hending : ending (block.map .ok ++ source) = ending source := by
    unfold ending
    rw [firstError?_append]
  rw [reference_eq_deliver, blocks_append d h, deliver_cons, hrest, hending]

/-- The reference of the rows of one block, at the end of the source. -/
theorem reference_last_block (d : Dispatch σ) {block : List Row} (hne : block ≠ [])
    (h : block.length ≤ d.config.blockSize) (w : σ) :
    d.reference (block.map .ok) w =
      outcomeThen (d.reference []) ((d.evaluation block).runToEnd d.service w) := by
  have hrest : d.reference [] = d.deliver [] [] := by
    funext w
    rw [reference_nil, deliver]
  have hrows := rowsBeforeError_append block []
  have herror := firstError?_append block []
  simp only [List.append_nil, rowsBeforeError, firstError?] at hrows herror
  have hblocks : d.blocks (block.map .ok) = [block] := by
    unfold blocks
    rw [herror, hrows]
    exact batches_of_length_le hne h
  have hending : ending (block.map .ok) = [] := by
    unfold ending
    rw [herror]
  rw [reference_eq_deliver, hblocks, hending, deliver_cons, hrest]

/-- A failure of the source in an unfinished block is all that is delivered. -/
theorem reference_unfinished_block (d : Dispatch σ) {block : List Row}
    (h : block.length < d.config.blockSize) (e : FederationError) (rest : List Item) (w : σ) :
    d.reference (block.map .ok ++ .error e :: rest) w = ([.error e], w) := by
  have hrows := rowsBeforeError_append block (.error e :: rest)
  have herror := firstError?_append block (.error e :: rest)
  simp only [List.append_nil, rowsBeforeError, firstError?] at hrows herror
  have hblocks : d.blocks (block.map .ok ++ .error e :: rest) = [] := by
    unfold blocks
    rw [herror, hrows]
    by_cases hne : block = []
    · simp [hne, batches_nil]
    · simp [batches_of_length_le hne (Nat.le_of_lt h), Nat.ne_of_lt h]
  have hending : ending (block.map .ok ++ .error e :: rest) = [.error e] := by
    unfold ending
    rw [herror]
  rw [reference_eq_deliver, hblocks, hending, deliver]

/-- An error is the last item of what a stream delivers.

**Proof sketch.** Induction on the blocks: a block with an error is the last one. -/
theorem throughError_reference (d : Dispatch σ) (source : List Item) (w : σ) :
    throughError (d.reference source w).1 = (d.reference source w).1 := by
  have hending : throughError (ending source) = ending source := by
    unfold ending
    split <;> rfl
  rw [reference_eq_deliver]
  induction d.blocks source generalizing w with
  | nil => exact hending
  | cons block rest ih =>
    rw [deliver_cons]
    exact throughError_outcomeThen ih _

end Dispatch

end ServiceClause
