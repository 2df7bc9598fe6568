import ServiceClause.Batch

/-!
# Queries that can be sent

Before a query is sent, the values of its rows are put into it or after it. The former needs a
pattern to put them into, the latter values other than blank nodes. Nothing else can go wrong: with
these two conditions there always is a text to send, and without them the errors are known.

## Main definitions

* `ServiceClause.HasPattern` — a query with a pattern.
* `ServiceClause.Descriptor.HasPatterns` — a clause all of whose queries have one.
* `ServiceClause.Row.Renderable` — a row whose values can be sent.

## Main statements

* `ServiceClause.exists_preBind`, `ServiceClause.exists_batchText` — a text to send.
* `ServiceClause.batchText_eq_error` — the only error of the bindings of a batch is a blank node.
-/

set_option autoImplicit false

namespace ServiceClause

/-- Whether a query has a pattern: an opening brace outside strings, IRIs and comments. -/
def HasPattern (query : String) : Prop :=
  (Token.scan query.toList).any (·.isOpenBrace) = true

instance (query : String) : Decidable (HasPattern query) :=
  inferInstanceAs (Decidable (_ = true))

/-- Whether every query that is rendered for a clause has a pattern, be it for one row or, with the
row index among the selected variables, for several rows. -/
def Descriptor.HasPatterns (d : Descriptor) (rowIndex : Name) : Prop :=
  ∀ bound, HasPattern (d.render (d.projection bound)) ∧
    HasPattern (d.render ((d.projection bound).insert rowIndex))

/-- Whether the values of a row for declared variables can be sent: none of them is a blank node. -/
def Row.Renderable (row : Row) (declared : NameSet) : Prop :=
  ∀ n ∈ declared, ∀ t, row.get? n = some t → t.isBlankNode = false

/-! ## Values in the text -/

/-- The values of a row can be put into a query that has a pattern. -/
theorem exists_preBind {query : String} (h : HasPattern query) (row : Row) (declared : NameSet) :
    ∃ text, preBind query row declared = .ok text := by
  unfold preBind
  by_cases hempty : (row.renderable declared).isEmpty = true
  · exact ⟨query, by simp only [hempty, if_true]⟩
  · refine ⟨String.ofList (Token.bindAll (row.renderable declared) false
      (Token.scan query.toList)), ?_⟩
    simp only [hempty, Bool.false_eq_true, if_false]
    exact if_pos h

theorem preBind_ne_error {query : String} (h : HasPattern query) (row : Row) (declared : NameSet)
    (e : FederationError) : preBind query row declared ≠ .error e := by
  obtain ⟨text, htext⟩ := exists_preBind h row declared
  rw [htext]
  simp

/-! ## Values after the text -/

namespace InlineData

variable {row : Row} {names : List Name} {e : FederationError}

/-- The only error of a cell is that of a blank node. -/
theorem cell_eq_error {n : Name} (h : cell row n = .error e) :
    ∃ label, row.get? n = some (.blankNode label) ∧ e = .blankNode label := by
  unfold cell at h
  cases hget : row.get? n with
  | none => simp [hget] at h
  | some t =>
    rw [hget] at h
    cases t with
    | iri i => simp [Term.queryText] at h
    | literal l => simp [Term.queryText] at h
    | blankNode label => exact ⟨label, rfl, (Except.error.inj h).symm⟩

/-- An error of a tuple is one of its cells. -/
theorem cells_eq_error (h : cells row names = .error e) : ∃ n ∈ names, cell row n = .error e := by
  induction names with
  | nil => simp [cells] at h
  | cons n rest ih =>
    rw [cells] at h
    cases hcell : cell row n with
    | error e' =>
      rw [hcell] at h
      obtain rfl := Except.error.inj h
      exact ⟨n, List.mem_cons_self, hcell⟩
    | ok text =>
      cases hcells : cells row rest with
      | error e' =>
        rw [hcell, hcells] at h
        obtain rfl := Except.error.inj h
        obtain ⟨m, hm, he⟩ := ih hcells
        exact ⟨m, List.mem_cons_of_mem _ hm, he⟩
      | ok others =>
        rw [hcell, hcells] at h
        simp [bind, Except.bind, pure, Except.pure] at h

/-- An error of several tuples is one of them. -/
theorem tuples_eq_error {batch : List Row} {index : Nat} (h : tuples names index batch = .error e) :
    ∃ row ∈ batch, cells row names = .error e := by
  induction batch generalizing index with
  | nil => simp [tuples] at h
  | cons row rest ih =>
    rw [tuples] at h
    cases hcells : cells row names with
    | error e' =>
      rw [hcells] at h
      obtain rfl := Except.error.inj h
      exact ⟨row, List.mem_cons_self, hcells⟩
    | ok text =>
      cases htuples : tuples names (index + 1) rest with
      | error e' =>
        rw [hcells, htuples] at h
        obtain rfl := Except.error.inj h
        obtain ⟨r, hr, he⟩ := ih htuples
        exact ⟨r, List.mem_cons_of_mem _ hr, he⟩
      | ok others =>
        rw [hcells, htuples] at h
        simp [bind, Except.bind, pure, Except.pure] at h

end InlineData

section

variable {query : String} {batch : List Row} {declared : NameSet} {rowIndex : Name}

theorem mem_declared_of_mem_relevantNames {n : Name} (h : n ∈ relevantNames batch declared) :
    n ∈ declared := by
  cases batch with
  | nil => simp [relevantNames] at h
  | cons row rest => simpa using (List.mem_filter.1 h).2

/-- The only error of the bindings of a batch is that of a blank node.

**Proof sketch.** Go down from the block to the tuple and to the cell at fault. -/
theorem batchText_eq_error {relevant : List Name} {e : FederationError}
    (h : batchText query batch relevant rowIndex = .error e) :
    ∃ row ∈ batch, ∃ n ∈ relevant, ∃ label,
      row.get? n = some (.blankNode label) ∧ e = .blankNode label := by
  unfold batchText at h
  split at h
  · simp at h
  · rw [inlineData] at h
    cases htuples : InlineData.tuples relevant 0 batch with
    | error e' =>
      rw [htuples] at h
      obtain rfl := Except.error.inj h
      obtain ⟨row, hrow, hcells⟩ := InlineData.tuples_eq_error htuples
      obtain ⟨n, hn, hcell⟩ := InlineData.cells_eq_error hcells
      exact ⟨row, hrow, n, hn, InlineData.cell_eq_error hcell⟩
    | ok text =>
      rw [htuples] at h
      simp [bind, Except.bind, pure, Except.pure, Except.map] at h

/-- There is a text for a batch of rows whose values can be sent. -/
theorem exists_batchText (h : ∀ row ∈ batch, row.Renderable declared) :
    ∃ text, batchText query batch (relevantNames batch declared) rowIndex = .ok text := by
  cases htext : batchText query batch (relevantNames batch declared) rowIndex with
  | ok text => exact ⟨text, rfl⟩
  | error e =>
    obtain ⟨row, hrow, n, hn, label, hget, _⟩ := batchText_eq_error htext
    have hblank := h row hrow n (mem_declared_of_mem_relevantNames hn) _ hget
    simp [Term.isBlankNode] at hblank

end

end ServiceClause
