import ServiceClause.RowIterator
import ServiceClause.Text.Blank
import ServiceClause.Text.Decimal

/-!
# Row sequences

A row sequence is what an evaluation gives: rows that are pulled one by one. It is a pipeline, which
says how iterators were put on top of each other, together with the state that the pulls so far have
led to.

## Main definitions

* `ServiceClause.Pipeline` — how a sequence was put together.
* `ServiceClause.RowSequence` — a pipeline with its state.
* `ServiceClause.RowSequence.next`, `hint`, `toList`, `collect` — reading a sequence.
* `ServiceClause.RowSequence.chain`, `silentIf`, `insert`, `strip`, `cross`, `join` — building one.
* `ServiceClause.namedRow` — the input row that a remote row names by its index.
-/

set_option autoImplicit false

namespace ServiceClause

/-! ## The row index -/

/-- The input row that `remote` names by the value of the variable `index`: white space around the
value is ignored, and the rest has to be a decimal number, perhaps with a plus sign. -/
def namedRow (inputs : List Row) (index : Name) (remote : Row) : Option Row := do
  let value ← remote.get? index
  let i ← natural? (trimBlanks value.value.toList)
  inputs[i]?

/-- The input row that `remote` names, extended by the other bindings of `remote`. -/
def joinNamed (inputs : List Row) (index : Name) (remote : Row) : Option Row :=
  (namedRow inputs index remote).map (·.merge (remote.erase index))

/-! ## Pipelines -/

/-- How a row sequence was put together. -/
inductive Pipeline where
  /-- Items at hand. -/
  | items
  /-- All of `first`, then all of `second`. -/
  | append (first second : Pipeline)
  /-- The first error that is not a malformed query ends the sequence. -/
  | silent (inner : Pipeline)
  /-- Every row extends the row `input`. -/
  | insert (input : Row) (inner : Pipeline)
  /-- Every row without its binding of `name`. -/
  | strip (name : Name) (inner : Pipeline)
  /-- Every row extends each row of `inputs`. -/
  | cross (inputs : List Row) (inner : Pipeline)
  /-- Every row extends the row of `inputs` that its variable `index` names. -/
  | join (inputs : List Row) (index : Name) (inner : Pipeline)

namespace Pipeline

/-- What the pulls from a pipeline have led to. -/
def State : Pipeline → Type
  | items => Nat × List Item
  | append p q => Option p.State × q.State
  | silent p => Bool × p.State
  | insert _ p => p.State
  | strip _ p => p.State
  | cross _ p => Option (Row × List Row) × p.State
  | join _ _ p => p.State

/-- The iterator that a pipeline stands for. -/
def iterator : (p : Pipeline) → RowIterator p.State
  | items => RowIterator.items
  | append p q => p.iterator.append q.iterator
  | silent p => p.iterator.silent
  | insert input p => p.iterator.map input.merge
  | strip name p => p.iterator.map (·.erase name)
  | cross inputs p => p.iterator.cross inputs
  | join inputs index p => p.iterator.join (joinNamed inputs index)

end Pipeline

/-! ## Sequences -/

/-- A sequence of rows, any of which may be an error. -/
structure RowSequence where
  /-- How the sequence was put together. -/
  pipeline : Pipeline
  /-- What the pulls so far have led to. -/
  state : pipeline.State

namespace RowSequence

/-- The sequence of the given items. -/
def ofItems (l : List Item) : RowSequence := ⟨.items, (l.length, l)⟩

/-- The sequence of the given rows. -/
def ofRows (rows : List Row) : RowSequence := ofItems (rows.map .ok)

/-- The sequence of one row. -/
def one (row : Row) : RowSequence := ofRows [row]

/-- The sequence without items. -/
def empty : RowSequence := ofRows []

instance : Inhabited RowSequence := ⟨empty⟩

/-- The sequence of one error. It has no rows to expect. -/
def failing (e : FederationError) : RowSequence := ⟨.items, (0, [.error e])⟩

/-- The items of `a` and then those of `b`. -/
def append (a b : RowSequence) : RowSequence :=
  ⟨.append a.pipeline b.pipeline, (some a.state, b.state)⟩

/-- The items of all the parts in order. -/
def chain (parts : List RowSequence) : RowSequence := parts.foldr append empty

/-- The sequence ended by its first error, unless the query is malformed. -/
def silent (a : RowSequence) : RowSequence := ⟨.silent a.pipeline, (false, a.state)⟩

/-- The sequence, silenced if `b` holds. -/
def silentIf (b : Bool) (a : RowSequence) : RowSequence := if b then a.silent else a

/-- The rows extending the row `input`. -/
def insert (input : Row) (a : RowSequence) : RowSequence := ⟨.insert input a.pipeline, a.state⟩

/-- The rows without their binding of `name`. -/
def strip (name : Name) (a : RowSequence) : RowSequence := ⟨.strip name a.pipeline, a.state⟩

/-- Every row extending each row of `inputs`. -/
def cross (inputs : List Row) (a : RowSequence) : RowSequence :=
  ⟨.cross inputs a.pipeline, (none, a.state)⟩

/-- Every row extending the row of `inputs` that its variable `index` names; the others are left
out. -/
def join (inputs : List Row) (index : Name) (a : RowSequence) : RowSequence :=
  ⟨.join inputs index a.pipeline, a.state⟩

/-- Pulls an item, if there is one, and gives the sequence after the pull. -/
def next (a : RowSequence) : Option Item × RowSequence :=
  ((a.pipeline.iterator.next a.state).1, ⟨a.pipeline, (a.pipeline.iterator.next a.state).2⟩)

/-- The number of rows to expect, if it is known. -/
def hint (a : RowSequence) : Option Nat := a.pipeline.iterator.hint a.state

/-- A bound on the number of items still to come. -/
def size (a : RowSequence) : Nat := a.pipeline.iterator.size a.state

/-- The items pulled until the first pull that gives none. -/
def toList (a : RowSequence) : List Item := a.pipeline.iterator.drain a.state

/-- The rows, or the first error. -/
def collect (a : RowSequence) : Except FederationError (List Row) := a.toList.mapM id

theorem size_next {a b : RowSequence} {item : Item} (h : a.next = (some item, b)) :
    b.size < a.size := by
  simp only [next, Prod.mk.injEq] at h
  obtain ⟨h1, rfl⟩ := h
  have hnext : a.pipeline.iterator.next a.state =
      (some item, (a.pipeline.iterator.next a.state).2) := by rw [← h1]
  exact a.pipeline.iterator.size_lt hnext

/-- Reading a sequence to its end pulls its items one by one. -/
theorem toList_eq (a : RowSequence) :
    a.toList = match a.next with
      | (none, _) => []
      | (some item, b) => item :: b.toList := by
  simp only [toList, next]
  rw [RowIterator.drain]
  split <;> rename_i h <;> simp [h]

end RowSequence

end ServiceClause
