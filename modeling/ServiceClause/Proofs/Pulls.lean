import ServiceClause.Proofs.Joins.InnerPulls

/-!
# Single pulls

Who reads a row sequence may pull on after a pull that gave nothing. A sequence that then gives
nothing for good is determined by its items, pull by pull. Every sequence is of this kind: the items
at hand are, and each way of building sequences keeps it, if it does not even bring it about.

## Main definitions

* `ServiceClause.RowIterator.Fused` — an iterator that does not go on after giving nothing.
* `ServiceClause.RowSequence.pull` — what a single pull gives.
* `ServiceClause.RowSequence.given` — what some pulls give.
* `ServiceClause.RowSequence.Fused` — a sequence that gives its items and then nothing more.

## Main statements

* `ServiceClause.Pipeline.fused_iterator` — every pipeline is fused.
* `ServiceClause.RowSequence.fused` — pulls give the items one by one, and then nothing.
* `ServiceClause.RowSequence.toList_after` — what pulls leave.
* `ServiceClause.RowSequence.pull_silent` — when silencing a sequence changes no pull.
-/

set_option autoImplicit false

namespace ServiceClause

/-! ## Iterators -/

namespace RowIterator

variable {σ τ : Type}

/-- An iterator that has given nothing gives nothing at the next pull either. -/
def Fused (it : RowIterator σ) : Prop :=
  ∀ s, (it.next s).1 = none → (it.next (it.next s).2).1 = none

theorem fused_items : items.Fused := by
  rintro ⟨count, _ | ⟨item, rest⟩⟩ h
  · rfl
  · cases h

/-- What is chained last decides. -/
theorem fused_append (a : RowIterator σ) {b : RowIterator τ} (hb : b.Fused) :
    (a.append b).Fused := by
  rintro ⟨s?, t⟩ h
  cases s? with
  | none => exact hb t h
  | some s =>
    cases hpull : a.next s with
    | mk item? s' =>
      cases item? with
      | some item => simp [append, appendNext, hpull] at h
      | none =>
        have hnext : (a.append b).next (some s, t) = ((b.next t).1, (none, (b.next t).2)) := by
          simp [append, appendNext, hpull]
        rw [hnext] at h ⊢
        exact hb t h

/-- A silenced iterator remembers whether it has given nothing. -/
theorem fused_silent (it : RowIterator σ) : it.silent.Fused := by
  rintro ⟨ended, s⟩ h
  cases ended with
  | true => rfl
  | false =>
    simp only [silent, silentNext] at h ⊢
    split at h
    · rfl
    · cases h
    · split at h
      · cases h
      · next hmalformed => rw [if_neg hmalformed]

theorem fused_map (f : Row → Row) {it : RowIterator σ} (h : it.Fused) : (it.map f).Fused := by
  intro s hs
  simp only [map, Option.map_eq_none_iff] at hs ⊢
  exact h s hs

/-- A pull that gives no pair has come to a pull of the inner iterator that gives nothing. -/
theorem exists_next_of_crossPull (it : RowIterator σ) (inputs : List Row) (s : σ)
    (h : (it.crossPull inputs s).1 = none) :
    ∃ s₁, (it.next s₁).1 = none ∧ (it.crossPull inputs s).2 = (none, (it.next s₁).2) := by
  fun_induction it.crossPull inputs s with
  | case1 s s' hnext => exact ⟨s, by rw [hnext], by rw [hnext]⟩
  | case2 => cases h
  | case3 => cases h
  | case4 s remote s' hnext hinputs ih =>
    subst hinputs
    exact ih h

theorem fused_cross (inputs : List Row) {it : RowIterator σ} (hit : it.Fused) :
    (it.cross inputs).Fused := by
  have hpull : ∀ s, (it.crossPull inputs s).1 = none →
      (it.crossNext inputs (it.crossPull inputs s).2).1 = none := by
    intro s h
    obtain ⟨s₁, hs₁, hstate⟩ := it.exists_next_of_crossPull inputs s h
    have hstill : it.next (it.next s₁).2 = (none, (it.next (it.next s₁).2).2) := by
      rw [← hit s₁ hs₁]
    rw [hstate, crossNext, crossPull_of_none hstill]
  rintro ⟨_ | ⟨remote, _ | ⟨input, rest⟩⟩, s⟩ h
  · exact hpull s h
  · exact hpull s h
  · cases h

/-- A pull that joins nothing has come to a pull of the inner iterator that gives nothing. -/
theorem exists_next_of_joinNext (it : RowIterator σ) (place : Row → Option Row) (s : σ)
    (h : (it.joinNext place s).1 = none) :
    ∃ s₁, (it.next s₁).1 = none ∧ (it.joinNext place s).2 = (it.next s₁).2 := by
  fun_induction it.joinNext place s with
  | case1 s s' hnext => exact ⟨s, by rw [hnext], by rw [hnext]⟩
  | case2 => cases h
  | case3 => cases h
  | case4 s remote s' hnext hnone ih => exact ih h

theorem fused_join (place : Row → Option Row) {it : RowIterator σ} (hit : it.Fused) :
    (it.join place).Fused := by
  intro s h
  obtain ⟨s₁, hs₁, hstate⟩ := it.exists_next_of_joinNext place s h
  have hstill : it.next (it.next s₁).2 = (none, (it.next (it.next s₁).2).2) := by
    rw [← hit s₁ hs₁]
  show (it.joinNext place (it.joinNext place s).2).1 = none
  rw [hstate, joinNext_of_none hstill]

end RowIterator

/-- Every pipeline gives nothing more once it has given nothing. -/
theorem Pipeline.fused_iterator (p : Pipeline) : p.iterator.Fused := by
  induction p with
  | items => exact RowIterator.fused_items
  | append p q _ ihq => exact RowIterator.fused_append p.iterator ihq
  | silent p _ => exact RowIterator.fused_silent p.iterator
  | insert input p ih => exact RowIterator.fused_map input.merge ih
  | strip name p ih => exact RowIterator.fused_map (·.erase name) ih
  | cross inputs p ih => exact RowIterator.fused_cross inputs ih
  | join inputs index p ih => exact RowIterator.fused_join (joinNamed inputs index) ih

/-! ## Sequences -/

namespace RowSequence

/-- The sequence after `n` pulls. -/
def after : Nat → RowSequence → RowSequence
  | 0, a => a
  | n + 1, a => after n a.next.2

/-- What is pulled after `n` other pulls. -/
def pull (n : Nat) (a : RowSequence) : Option Item := (a.after n).next.1

/-- The items that the first `m` pulls give. -/
def given (m : Nat) (a : RowSequence) : List Item := (List.range m).filterMap fun n => a.pull n

/-- The sequence gives its items and then nothing more. -/
def Fused (a : RowSequence) : Prop := ∀ n, a.pull n = a.toList[n]?

variable {a : RowSequence}

theorem toList_of_none (h : a.next.1 = none) : a.toList = [] := by
  have hnext : a.next = (none, a.next.2) := by rw [← h]
  rw [toList_eq, hnext]

theorem toList_of_some {item : Item} (h : a.next.1 = some item) :
    a.toList = item :: a.next.2.toList := by
  have hnext : a.next = (some item, a.next.2) := by rw [← h]
  rw [toList_eq, hnext]

/-- The first pull gives the first item. -/
theorem pull_zero (a : RowSequence) : a.pull 0 = a.toList[0]? := by
  show a.next.1 = a.toList[0]?
  cases h : a.next.1 with
  | none => rw [toList_of_none h, List.getElem?_nil]
  | some item => rw [toList_of_some h, List.getElem?_cons_zero]

/-- Pulls leave the items that come after those pulled. -/
theorem toList_after (a : RowSequence) (n : Nat) : (a.after n).toList = a.toList.drop n := by
  induction n generalizing a with
  | zero => rfl
  | succ n ih =>
    rw [after, ih]
    cases hnext : a.next.1 with
    | none =>
      have hstill : a.next.2.next.1 = none := a.pipeline.fused_iterator a.state hnext
      rw [toList_of_none hstill, toList_of_none hnext, List.drop_nil, List.drop_nil]
    | some item => rw [toList_of_some hnext, List.drop_succ_cons]

/-- A sequence gives its items and then nothing more, however it was put together. -/
theorem fused (a : RowSequence) : a.Fused := by
  intro n
  have hfirst := (a.after n).pull_zero
  rw [toList_after, List.getElem?_drop, Nat.add_zero] at hfirst
  exact hfirst

/-- Pulls give the items from the beginning, as far as there are any. -/
theorem given_eq_take (a : RowSequence) (m : Nat) : a.given m = a.toList.take m := by
  induction m with
  | zero => rfl
  | succ m ih =>
    rw [given, List.range_succ, List.filterMap_append, ← given, ih, List.take_add_one, ← a.fused]
    cases hpull : a.pull m <;> simp [hpull]

/-- Nothing comes after a pull that gives nothing. -/
theorem pull_eq_none_of_le {a : RowSequence} {n m : Nat} (h : a.pull n = none) (hle : n ≤ m) :
    a.pull m = none := by
  rw [fused, List.getElem?_eq_none_iff] at h ⊢
  exact Nat.le_trans h hle

/-- Silencing changes no pull from a sequence whose errors are all malformed queries. -/
theorem pull_silent (hmalformed : ∀ e, .error e ∈ a.toList → e.isMalformed = true) (n : Nat) :
    a.silent.pull n = a.pull n := by
  rw [fused, toList_silent, silentItems_of_malformed hmalformed, fused]

end RowSequence

end ServiceClause
