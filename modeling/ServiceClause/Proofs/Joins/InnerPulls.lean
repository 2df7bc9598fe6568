import ServiceClause.Proofs.Sequences

/-!
# Pulls behind a pull

A pull from a joined iterator pulls from the remote one: never if the remote row at hand has inputs
left, and otherwise until there is something to give. That it comes to an end is a matter of
counting: it pulls at most once for every remote item that is left, and once more to find that there
is none.

## Main definitions

* `ServiceClause.RowIterator.counting` — an iterator that counts its pulls.

## Main statements

* `ServiceClause.RowIterator.joinNext_counting`, `ServiceClause.RowIterator.crossNext_counting` —
  how often a pull from a joined iterator pulls from the remote one.
-/

set_option autoImplicit false

namespace ServiceClause.RowIterator

variable {σ : Type}

/-- The iterator that counts its pulls. -/
def counting (it : RowIterator σ) : RowIterator (σ × Nat) where
  next s := ((it.next s.1).1, ((it.next s.1).2, s.2 + 1))
  hint s := it.hint s.1
  size s := it.size s.1
  size_lt := by
    intro s item s' h
    simp only [Prod.mk.injEq] at h
    obtain ⟨hnext, rfl⟩ := h
    exact it.size_lt (show it.next s.1 = (some item, (it.next s.1).2) by rw [← hnext])

theorem next_counting {it : RowIterator σ} {s s' : σ} {item? : Option Item}
    (h : it.next s = (item?, s')) (n : Nat) : it.counting.next (s, n) = (item?, (s', n + 1)) := by
  simp [counting, h]

/-! ## Rows with the input that they name -/

section Join

variable {it : RowIterator σ} {place : Row → Option Row} {s s' : σ}

theorem joinNext_of_none (h : it.next s = (none, s')) : it.joinNext place s = (none, s') := by
  rw [joinNext]
  split <;> simp_all

theorem joinNext_of_error {e : FederationError} (h : it.next s = (some (.error e), s')) :
    it.joinNext place s = (some (.error e), s') := by
  rw [joinNext]
  split <;> simp_all

theorem joinNext_of_placed {remote row : Row} (h : it.next s = (some (.ok remote), s'))
    (hplace : place remote = some row) : it.joinNext place s = (some (.ok row), s') := by
  rw [joinNext]
  split <;> simp_all

theorem joinNext_of_dropped {remote : Row} (h : it.next s = (some (.ok remote), s'))
    (hplace : place remote = none) : it.joinNext place s = it.joinNext place s' := by
  rw [joinNext]
  split <;> simp_all

/-- A pull that joins a remote row to the input that it names pulls from the remote iterator at most
once for every item that is left, and once more.

**Proof sketch.** Induction on the pull. A row that names no input is dropped, and one item less is
left. -/
theorem joinNext_counting (it : RowIterator σ) (place : Row → Option Row) (s : σ) (n : Nat) :
    ∃ k, 1 ≤ k ∧ k ≤ (it.drain s).length + 1 ∧ it.counting.joinNext place (s, n) =
      ((it.joinNext place s).1, ((it.joinNext place s).2, n + k)) := by
  fun_induction it.joinNext place s generalizing n with
  | case1 s s' hnext =>
    exact ⟨1, Nat.le_refl 1, by omega, joinNext_of_none (next_counting hnext n)⟩
  | case2 s e s' hnext =>
    exact ⟨1, Nat.le_refl 1, by omega, joinNext_of_error (next_counting hnext n)⟩
  | case3 s remote s' hnext row hrow =>
    exact ⟨1, Nat.le_refl 1, by omega, joinNext_of_placed (next_counting hnext n) hrow⟩
  | case4 s remote s' hnext hnone ih =>
    obtain ⟨k, -, hk, hpull⟩ := ih (n + 1)
    refine ⟨k + 1, by omega, ?_, ?_⟩
    · rw [drain_of_some hnext, List.length_cons]
      omega
    · rw [joinNext_of_dropped (next_counting hnext n) hnone, hpull, Nat.add_assoc, Nat.add_comm 1 k]

end Join

/-! ## Rows with every input -/

section Cross

variable {it : RowIterator σ} {inputs : List Row} {s s' : σ}

theorem crossPull_of_none (h : it.next s = (none, s')) :
    it.crossPull inputs s = (none, (none, s')) := by
  rw [crossPull]
  split <;> simp_all

theorem crossPull_of_error {e : FederationError} (h : it.next s = (some (.error e), s')) :
    it.crossPull inputs s = (some (.error e), (none, s')) := by
  rw [crossPull]
  split <;> simp_all

theorem crossPull_of_cons {remote input : Row} {rest : List Row}
    (h : it.next s = (some (.ok remote), s')) : it.crossPull (input :: rest) s =
      (some (.ok (input.merge remote)), (some (remote, rest), s')) := by
  rw [crossPull]
  split <;> simp_all

theorem crossPull_of_nil {remote : Row} (h : it.next s = (some (.ok remote), s')) :
    it.crossPull [] s = it.crossPull [] s' := by
  rw [crossPull]
  split <;> simp_all

/-- A pull that begins with a new remote row pulls from the remote iterator at most once for every
item that is left, and once more; and just once if there are inputs. -/
theorem crossPull_counting (it : RowIterator σ) (inputs : List Row) (s : σ) (n : Nat) :
    ∃ k, 1 ≤ k ∧ k ≤ (it.drain s).length + 1 ∧ (inputs ≠ [] → k = 1) ∧
      it.counting.crossPull inputs (s, n) = ((it.crossPull inputs s).1,
        ((it.crossPull inputs s).2.1, ((it.crossPull inputs s).2.2, n + k))) := by
  fun_induction it.crossPull inputs s generalizing n with
  | case1 s s' hnext =>
    exact ⟨1, Nat.le_refl 1, by omega, fun _ => rfl, crossPull_of_none (next_counting hnext n)⟩
  | case2 s e s' hnext =>
    exact ⟨1, Nat.le_refl 1, by omega, fun _ => rfl, crossPull_of_error (next_counting hnext n)⟩
  | case3 s remote s' hnext input rest hinputs =>
    subst hinputs
    exact ⟨1, Nat.le_refl 1, by omega, fun _ => rfl, crossPull_of_cons (next_counting hnext n)⟩
  | case4 s remote s' hnext hinputs ih =>
    subst hinputs
    obtain ⟨k, -, hk, -, hpull⟩ := ih (n + 1)
    refine ⟨k + 1, by omega, ?_, fun h => absurd rfl h, ?_⟩
    · rw [drain_of_some hnext, List.length_cons]
      omega
    · rw [crossPull_of_nil (next_counting hnext n), hpull, Nat.add_assoc, Nat.add_comm 1 k]

/-- A pull from the product does not pull from the remote iterator while the remote row at hand has
inputs left. Otherwise it does so at most once for every item that is left, and once more; and just
once if there are inputs. -/
theorem crossNext_counting (it : RowIterator σ) (inputs : List Row)
    (pending : Option (Row × List Row)) (s : σ) (n : Nat) :
    ∃ k, k ≤ (it.drain s).length + 1 ∧ (inputs ≠ [] → k ≤ 1) ∧
      (pendingInputs pending ≠ [] → k = 0) ∧
      it.counting.crossNext inputs (pending, (s, n)) = ((it.crossNext inputs (pending, s)).1,
        ((it.crossNext inputs (pending, s)).2.1,
          ((it.crossNext inputs (pending, s)).2.2, n + k))) := by
  rcases pending with _ | ⟨remote, _ | ⟨input, rest⟩⟩
  · obtain ⟨k, -, hk, hone, hpull⟩ := it.crossPull_counting inputs s n
    exact ⟨k, hk, fun h => Nat.le_of_eq (hone h), fun h => absurd rfl h, hpull⟩
  · obtain ⟨k, -, hk, hone, hpull⟩ := it.crossPull_counting inputs s n
    exact ⟨k, hk, fun h => Nat.le_of_eq (hone h), fun h => absurd rfl h, hpull⟩
  · exact ⟨0, by omega, fun _ => Nat.zero_le 1, fun _ => rfl, rfl⟩

end Cross

end ServiceClause.RowIterator
