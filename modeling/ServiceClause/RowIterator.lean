import ServiceClause.Row

/-!
# Iterators over rows

A remote answer is read row by row, and any of its rows may turn out to be an error. An iterator
says how one item is pulled in a given state and which state follows; it may go on after an error.
Iterators are built on top of others: one after another, silenced, merged with input rows.

Every iterator has a bound on the items still to come, which each item pulled makes smaller. So
pulls that have to skip items of an inner iterator end, and so does draining.

## Main definitions

* `ServiceClause.RowIterator` — an iterator over states of type `σ`.
* `ServiceClause.RowIterator.items`, `append`, `silent`, `map`, `cross`, `join` — the ways of
  building iterators.
* `ServiceClause.RowIterator.drain` — the items pulled until the first pull that gives none.
-/

set_option autoImplicit false

namespace ServiceClause

/-- What a pull gives: a row, or an error in its place. -/
abbrev Item := Except FederationError Row

/-- An iterator over rows with states of type `σ`. -/
structure RowIterator (σ : Type) where
  /-- Pulls an item, if there is one, and gives the state after the pull. -/
  next : σ → Option Item × σ
  /-- The number of rows to expect, if it is known. -/
  hint : σ → Option Nat
  /-- A bound on the number of items still to come. -/
  size : σ → Nat
  /-- A pulled item makes the bound smaller. -/
  size_lt : ∀ {s : σ} {item : Item} {s' : σ}, next s = (some item, s') → size s' < size s

namespace RowIterator

variable {σ τ : Type}

/-! ## Draining -/

/-- The items pulled until the first pull that gives none. -/
def drain (it : RowIterator σ) (s : σ) : List Item :=
  match _h : it.next s with
  | (none, _) => []
  | (some item, s') => item :: it.drain s'
termination_by it.size s
decreasing_by exact it.size_lt ‹_›

/-! ## Items at hand -/

/-- The items of a list. The state also remembers how many there were at first, which stays the hint
to the end. -/
def items : RowIterator (Nat × List Item) where
  next
    | (count, []) => (none, (count, []))
    | (count, item :: rest) => (some item, (count, rest))
  hint s := some s.1
  size s := s.2.length
  size_lt := by
    rintro ⟨count, _ | ⟨i, rest⟩⟩ item s' h <;> grind

/-! ## One after another -/

/-- Pulls from `a` until it gives nothing and from `b` afterwards. The state of `a` is dropped when
it is left. -/
def appendNext (a : RowIterator σ) (b : RowIterator τ) : Option σ × τ → Option Item × (Option σ × τ)
  | (none, t) => ((b.next t).1, (none, (b.next t).2))
  | (some s, t) =>
    match a.next s with
    | (some item, s') => (some item, (some s', t))
    | (none, _) => ((b.next t).1, (none, (b.next t).2))

/-- The items of `a` and then those of `b`. -/
def append (a : RowIterator σ) (b : RowIterator τ) : RowIterator (Option σ × τ) where
  next := appendNext a b
  hint
    | (none, t) => b.hint t
    | (some s, t) => do return (← a.hint s) + (← b.hint t)
  size
    | (none, t) => b.size t
    | (some s, t) => a.size s + b.size t
  size_lt := by
    rintro ⟨s, t⟩ item s' h
    have hb : ∀ {t}, (b.next t).1 = some item → b.size (b.next t).2 < b.size t :=
      fun {t} h => b.size_lt (show b.next t = (some item, (b.next t).2) by rw [← h])
    cases s with
    | none =>
      simp only [appendNext, Prod.mk.injEq] at h
      obtain ⟨h1, rfl⟩ := h
      exact hb h1
    | some s =>
      simp only [appendNext] at h
      split at h
      · next i s1 heq =>
        simp only [Prod.mk.injEq, Option.some.injEq] at h
        obtain ⟨rfl, rfl⟩ := h
        have := a.size_lt heq
        simp only
        omega
      · simp only [Prod.mk.injEq] at h
        obtain ⟨h1, rfl⟩ := h
        have := hb h1
        simp only
        omega

/-! ## Silence -/

/-- Pulls through a silent iterator: an error of the inner one ends it, unless the query is
malformed. The state remembers whether it has ended. -/
def silentNext (it : RowIterator σ) : Bool × σ → Option Item × (Bool × σ)
  | (true, s) => (none, (true, s))
  | (false, s) =>
    match it.next s with
    | (none, s') => (none, (true, s'))
    | (some (.ok row), s') => (some (.ok row), (false, s'))
    | (some (.error e), s') =>
      if e.isMalformed then (some (.error e), (false, s')) else (none, (true, s'))

/-- The items of `it` up to the first error other than a malformed query. -/
def silent (it : RowIterator σ) : RowIterator (Bool × σ) where
  next := silentNext it
  hint _ := none
  size s := it.size s.2
  size_lt := by
    rintro ⟨ended, s⟩ item s' h
    cases ended with
    | true => simp [silentNext] at h
    | false =>
      simp only [silentNext] at h
      split at h
      · simp at h
      · next heq =>
        simp only [Prod.mk.injEq] at h
        obtain ⟨_, rfl⟩ := h
        exact it.size_lt heq
      · next heq =>
        split at h
        · simp only [Prod.mk.injEq] at h
          obtain ⟨_, rfl⟩ := h
          exact it.size_lt heq
        · simp at h

/-! ## Changing every row -/

/-- The items of `it` with every row changed by `f`. -/
def map (f : Row → Row) (it : RowIterator σ) : RowIterator σ where
  next s := ((it.next s).1.map (Except.map f), (it.next s).2)
  hint := it.hint
  size := it.size
  size_lt := by
    intro s item s' h
    simp only [Prod.mk.injEq, Option.map_eq_some_iff] at h
    obtain ⟨⟨i, hi, _⟩, rfl⟩ := h
    exact it.size_lt (show it.next s = (some i, (it.next s).2) by rw [← hi])

/-! ## Every row with every input -/

/-- Pulls a remote row and pairs it with the first input. Without inputs it pulls on, so only errors
come through. -/
def crossPull (it : RowIterator σ) (inputs : List Row) (s : σ) :
    Option Item × (Option (Row × List Row) × σ) :=
  match _h : it.next s with
  | (none, s') => (none, (none, s'))
  | (some (.error e), s') => (some (.error e), (none, s'))
  | (some (.ok remote), s') =>
    match inputs with
    | input :: rest => (some (.ok (input.merge remote)), (some (remote, rest), s'))
    | [] => it.crossPull inputs s'
termination_by it.size s
decreasing_by exact it.size_lt ‹_›

/-- Pairs the remote row at hand with its next input, or goes on to the next remote row. -/
def crossNext (it : RowIterator σ) (inputs : List Row) :
    Option (Row × List Row) × σ → Option Item × (Option (Row × List Row) × σ)
  | (some (remote, input :: rest), s) =>
    (some (.ok (input.merge remote)), (some (remote, rest), s))
  | (some (_, []), s) => it.crossPull inputs s
  | (none, s) => it.crossPull inputs s

/-- The inputs that the remote row at hand has still to be paired with. -/
def pendingInputs : Option (Row × List Row) → List Row
  | some (_, rest) => rest
  | none => []

theorem crossPull_size_lt (it : RowIterator σ) (inputs : List Row) (s : σ) {item : Item}
    {s' : Option (Row × List Row) × σ} (h : it.crossPull inputs s = (some item, s')) :
    (pendingInputs s'.1).length + it.size s'.2 * (inputs.length + 1) <
      it.size s * (inputs.length + 1) := by
  fun_induction it.crossPull inputs s with
  | case1 => simp at h
  | case2 s e s1 heq =>
    simp only [Prod.mk.injEq] at h
    obtain ⟨_, rfl⟩ := h
    have := Nat.mul_le_mul_right (inputs.length + 1) (it.size_lt heq)
    simp only [pendingInputs, List.length_nil]
    rw [Nat.succ_mul] at this
    omega
  | case3 s remote s1 heq input rest hinputs =>
    simp only [Prod.mk.injEq] at h
    obtain ⟨_, rfl⟩ := h
    have := Nat.mul_le_mul_right (inputs.length + 1) (it.size_lt heq)
    rw [Nat.succ_mul] at this
    have hlen : inputs.length = rest.length + 1 := by simp [hinputs]
    simp only [pendingInputs]
    omega
  | case4 s remote s1 heq hinputs ih =>
    subst hinputs
    exact Nat.lt_trans (ih h)
      (Nat.mul_lt_mul_of_pos_right (it.size_lt heq) (Nat.succ_pos _))

/-- Every row of `it` merged into every input, all inputs for one row before the next row. -/
def cross (inputs : List Row) (it : RowIterator σ) : RowIterator (Option (Row × List Row) × σ) where
  next := it.crossNext inputs
  hint
    | (some _, _) => none
    | (none, s) => (it.hint s).map (· * inputs.length)
  size s := (pendingInputs s.1).length + it.size s.2 * (inputs.length + 1)
  size_lt := by
    rintro ⟨_ | ⟨remote, _ | ⟨input, rest⟩⟩, s⟩ item s' h
    · simpa [pendingInputs] using it.crossPull_size_lt inputs s h
    · simpa [pendingInputs] using it.crossPull_size_lt inputs s h
    · simp only [crossNext, Prod.mk.injEq] at h
      obtain ⟨_, rfl⟩ := h
      simp [pendingInputs]

/-! ## Every row with the input that it names -/

/-- Pulls until `place` finds the input row that a remote row belongs to. -/
def joinNext (it : RowIterator σ) (place : Row → Option Row) (s : σ) : Option Item × σ :=
  match _h : it.next s with
  | (none, s') => (none, s')
  | (some (.error e), s') => (some (.error e), s')
  | (some (.ok remote), s') =>
    match place remote with
    | some row => (some (.ok row), s')
    | none => it.joinNext place s'
termination_by it.size s
decreasing_by exact it.size_lt ‹_›

theorem joinNext_size_lt (it : RowIterator σ) (place : Row → Option Row) (s : σ) {item : Item}
    {s' : σ} (h : it.joinNext place s = (some item, s')) : it.size s' < it.size s := by
  fun_induction it.joinNext place s with
  | case1 => simp at h
  | case2 s e s1 heq =>
    simp only [Prod.mk.injEq] at h
    obtain ⟨_, rfl⟩ := h
    exact it.size_lt heq
  | case3 s remote s1 heq row hrow =>
    simp only [Prod.mk.injEq] at h
    obtain ⟨_, rfl⟩ := h
    exact it.size_lt heq
  | case4 s remote s1 heq hnone ih => exact Nat.lt_trans (ih h) (it.size_lt heq)

/-- The rows that `place` makes of the rows of `it`; a row that it makes nothing of is left out. -/
def join (place : Row → Option Row) (it : RowIterator σ) : RowIterator σ where
  next := it.joinNext place
  hint _ := none
  size := it.size
  size_lt := fun h => it.joinNext_size_lt place _ h

end RowIterator

end ServiceClause
