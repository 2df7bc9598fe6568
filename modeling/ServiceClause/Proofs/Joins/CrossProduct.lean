import ServiceClause.Proofs.Joins.InnerPulls
import ServiceClause.Proofs.Pulls

/-!
# Every row with every input

If no variable relates an answer to the rows of a batch, every row of the answer extends all of
them. The product is read from one state to the next: a remote row at hand is paired with one input
after another, and only when the inputs are used up is the next remote item pulled.

## Main statements

* `ServiceClause.crossItems_error_between`, `ServiceClause.getElem?_crossItems_rows` — where the
  errors and the rows of the product stand.
* `ServiceClause.filterMap_crossItems` — errors do not touch the rows.
* `ServiceClause.RowSequence.cross_product` — what the product gives, pull by pull.
-/

set_option autoImplicit false

namespace ServiceClause

section

variable {inputs rows : List Row} {remote input : Row}

/-! ## Items of the product -/

theorem crossItems_append (inputs : List Row) (first second : List Item) :
    crossItems inputs (first ++ second) = crossItems inputs first ++ crossItems inputs second :=
  List.flatMap_append

/-- An error stands between the pairs of the rows before it and those of the rows after it. -/
theorem crossItems_error_between (inputs : List Row) (before after : List Item)
    (e : FederationError) : crossItems inputs (before ++ .error e :: after) =
      crossItems inputs before ++ .error e :: crossItems inputs after := by
  rw [crossItems_append, crossItems_cons_error]

/-- Without errors there are as many rows as pairs. -/
theorem length_crossItems_rows (inputs rows : List Row) :
    (crossItems inputs (rows.map .ok)).length = rows.length * inputs.length := by
  induction rows with
  | nil => rw [List.length_nil, Nat.zero_mul]; rfl
  | cons remote rows ih =>
    rw [List.map_cons, crossItems_cons_ok, List.length_append, List.length_map, ih,
      List.length_cons, Nat.succ_mul, Nat.add_comm]

/-- The pairs of a remote row come after those of the remote rows before it, in the order of the
inputs. -/
theorem getElem?_crossItems_rows {i j : Nat} (hremote : rows[i]? = some remote)
    (hinput : inputs[j]? = some input) :
    (crossItems inputs (rows.map .ok))[i * inputs.length + j]? =
      some (.ok (input.merge remote)) := by
  have hj : j < inputs.length := (List.getElem?_eq_some_iff.1 hinput).1
  induction rows generalizing i with
  | nil => simp at hremote
  | cons first rows ih =>
    rw [List.map_cons, crossItems_cons_ok]
    cases i with
    | zero =>
      obtain rfl := Option.some.inj hremote
      rw [Nat.zero_mul, Nat.zero_add, List.getElem?_append_left (by simpa using hj),
        List.getElem?_map, hinput]
      rfl
    | succ i =>
      have hskip : (i + 1) * inputs.length + j - inputs.length = i * inputs.length + j := by
        rw [Nat.succ_mul]
        omega
      rw [List.getElem?_append_right (by rw [List.length_map, Nat.succ_mul]; omega),
        List.length_map, hskip]
      exact ih hremote

/-- The rows of the product are the pairs of the remote rows and the inputs, whatever errors come
between. -/
theorem filterMap_crossItems (inputs : List Row) (items : List Item) :
    (crossItems inputs items).filterMap Except.toOption =
      (items.filterMap Except.toOption).flatMap fun remote => inputs.map (·.merge remote) := by
  induction items with
  | nil => rfl
  | cons item items ih =>
    cases item with
    | error e =>
      rw [crossItems_cons_error, List.filterMap_cons_none rfl, List.filterMap_cons_none rfl, ih]
    | ok remote =>
      have hpairs : (inputs.map fun input => (.ok (input.merge remote) : Item)).filterMap
          Except.toOption = inputs.map (·.merge remote) := by
        rw [List.filterMap_map]
        exact congrFun List.filterMap_eq_map inputs
      have hremote : (Except.ok remote : Item).toOption = some remote := rfl
      rw [crossItems_cons_ok, List.filterMap_append, ih, hpairs, List.filterMap_cons_some hremote,
        List.flatMap_cons]

end

/-! ## Main result -/

/-- **Every row with every input.** Whatever items a remote sequence gives, the product gives its
errors in their places and for every remote row the inputs extended by it, in their order. As many
pulls as there are items give these one by one, and the next one gives nothing; in whatever state
the product is, the rest of it consists of what the remote row at hand still gives and of all that
the remote items to come give. Without errors there are as many rows as pairs, all pairs of a remote
row before those of the next one. With errors the rows are the same pairs in the same order.

A pull ends, in whatever state: while the remote row at hand has inputs left it does not pull from
the remote sequence, and otherwise at most once for every item that is left, and once more; just
once unless there are no inputs.

**Proof sketch.** What is left of the product is a view of its states that every pull respects
(`RowIterator.drain_cross`). -/
theorem RowSequence.cross_product (remote : RowSequence) (inputs : List Row) :
    (remote.cross inputs).toList = (remote.toList.flatMap fun
      | .ok row => inputs.map fun input => .ok (input.merge row)
      | .error e => [.error e]) ∧
    (∀ n ≤ (remote.cross inputs).toList.length,
      (remote.cross inputs).pull n = (remote.cross inputs).toList[n]? ∧
      ((remote.cross inputs).after n).toList = (remote.cross inputs).toList.drop n) ∧
    (∀ pending s, (remote.pipeline.iterator.cross inputs).drain (pending, s) =
      RowIterator.pendingItems pending ++
        crossItems inputs (remote.pipeline.iterator.drain s)) ∧
    (∀ rows : List Row, remote.toList = rows.map .ok →
      (remote.cross inputs).toList.length = rows.length * inputs.length ∧
      ∀ i j row input, rows[i]? = some row → inputs[j]? = some input →
        (remote.cross inputs).toList[i * inputs.length + j]? = some (.ok (input.merge row))) ∧
    (∀ before e after, remote.toList = before ++ .error e :: after →
      (remote.cross inputs).toList =
        crossItems inputs before ++ .error e :: crossItems inputs after) ∧
    (remote.cross inputs).toList.filterMap Except.toOption =
      ((remote.toList.filterMap Except.toOption).flatMap fun row => inputs.map (·.merge row)) ∧
    ∀ pending s n, ∃ k, k ≤ (remote.pipeline.iterator.drain s).length + 1 ∧
      (inputs ≠ [] → k ≤ 1) ∧ (RowIterator.pendingInputs pending ≠ [] → k = 0) ∧
      (remote.pipeline.iterator.counting.cross inputs).next (pending, (s, n)) =
        (((remote.pipeline.iterator.cross inputs).next (pending, s)).1,
          ((remote.pipeline.iterator.cross inputs).next (pending, s)).2.1,
          ((remote.pipeline.iterator.cross inputs).next (pending, s)).2.2, n + k) := by
  refine ⟨toList_cross inputs remote, fun n _ => ⟨fused _ n, toList_after _ n⟩,
    RowIterator.drain_cross inputs _, fun rows hrows => ?_, fun before e after hremote => ?_, ?_,
    RowIterator.crossNext_counting _ inputs⟩
  · rw [toList_cross, hrows]
    exact ⟨length_crossItems_rows inputs rows,
      fun i j row input => getElem?_crossItems_rows⟩
  · rw [toList_cross, hremote]
    exact crossItems_error_between inputs before after e
  · rw [toList_cross]
    exact filterMap_crossItems inputs remote.toList

/-- A row for a colour. -/
def colourRow (text : String) : Row := Row.empty.insert "colour" (.literal (.plain text))

/-- A row for a shape. -/
def shapeRow (text : String) : Row := Row.empty.insert "shape" (.literal (.plain text))

/-- Two shapes in two colours are four rows, and if the connection is lost between the shapes, the
same four rows with this error between them. -/
theorem coloured_shapes :
    (((RowSequence.ofRows [shapeRow "disc", shapeRow "ring"]).cross
      [colourRow "red", colourRow "blue"]).toList.length = 4 ∧
      ((RowSequence.ofRows [shapeRow "disc", shapeRow "ring"]).cross
        [colourRow "red", colourRow "blue"]).toList[2]? =
          some (.ok ((colourRow "red").merge (shapeRow "ring")))) ∧
    ((RowSequence.ofItems [.ok (shapeRow "disc"), .error (.connection "lost"),
      .ok (shapeRow "ring")]).cross [colourRow "red", colourRow "blue"]).toList =
        [.ok ((colourRow "red").merge (shapeRow "disc")),
          .ok ((colourRow "blue").merge (shapeRow "disc")), .error (.connection "lost"),
          .ok ((colourRow "red").merge (shapeRow "ring")),
          .ok ((colourRow "blue").merge (shapeRow "ring"))] := by
  obtain ⟨-, -, -, hrows, -⟩ :=
    (RowSequence.ofRows [shapeRow "disc", shapeRow "ring"]).cross_product
      [colourRow "red", colourRow "blue"]
  obtain ⟨-, -, -, -, hbetween, -⟩ :=
    (RowSequence.ofItems [.ok (shapeRow "disc"), .error (.connection "lost"),
      .ok (shapeRow "ring")]).cross_product [colourRow "red", colourRow "blue"]
  obtain ⟨hlength, hpairs⟩ := hrows _ (RowSequence.toList_ofRows _)
  exact ⟨⟨hlength, hpairs 1 0 _ _ rfl rfl⟩,
    hbetween [_] _ [_] (RowSequence.toList_ofItems _)⟩

end ServiceClause
