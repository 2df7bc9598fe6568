/-!
# Interleavings of lists

Several lists are interleaved when their members are put into one list without changing the order of
the members of each. The members of the result are numbered by the list that they come from, so an
interleaving can be cut apart again, and it is a permutation of all the lists one after another.

## Main definitions

* `ServiceClause.Interleaves` — an interleaving of `n` lists.

## Main statements

* `ServiceClause.Interleaves.perm` — an interleaving is a permutation of the concatenation.
* `ServiceClause.Interleaves.filterMap` — members changed by a function that depends on their list.
* `ServiceClause.interleaves_flatMap` — `n` images of one list, member by member.
-/

set_option autoImplicit false

namespace ServiceClause

variable {α β : Type} {n : Nat}

/-- `merged` is an interleaving of `parts 0`, …, `parts (n - 1)`: its members can be numbered such
that those with the number `i` are the list `parts i` in its order. -/
def Interleaves (n : Nat) (parts : Nat → List α) (merged : List α) : Prop :=
  ∃ numbered : List (Nat × α), numbered.map Prod.snd = merged ∧ (∀ x ∈ numbered, x.1 < n) ∧
    ∀ i < n, (numbered.filter (·.1 = i)).map Prod.snd = parts i

/-- Members with a number below `k + 1` have a number below `k` or the number `k`. -/
theorem filter_lt_succ_perm (numbered : List (Nat × α)) (k : Nat) :
    (numbered.filter (·.1 < k + 1)).Perm
      (numbered.filter (·.1 < k) ++ numbered.filter (·.1 = k)) := by
  induction numbered with
  | nil => exact .refl _
  | cons x numbered ih =>
    rcases Nat.lt_trichotomy x.1 k with h | h | h
    · rw [List.filter_cons_of_pos (by simp; omega), List.filter_cons_of_pos (by simpa using h),
        List.filter_cons_of_neg (by simp; omega)]
      exact ih.cons x
    · rw [List.filter_cons_of_pos (by simp; omega), List.filter_cons_of_neg (by simp; omega),
        List.filter_cons_of_pos (by simpa using h)]
      exact (ih.cons x).trans List.perm_middle.symm
    · rw [List.filter_cons_of_neg (by simp; omega), List.filter_cons_of_neg (by simp; omega),
        List.filter_cons_of_neg (by simp; omega)]
      exact ih

theorem filterMap_eq_map_of_some {place : α → Option β} {f : α → β} {l : List α}
    (h : ∀ a ∈ l, place a = some (f a)) : l.filterMap place = l.map f := by
  induction l with
  | nil => rfl
  | cons a l ih =>
    rw [List.filterMap_cons_some (h a List.mem_cons_self), List.map_cons,
      ih fun b hb => h b (List.mem_cons_of_mem _ hb)]

theorem filter_range_eq {i : Nat} (h : i < n) : (List.range n).filter (· = i) = [i] := by
  induction n with
  | zero => omega
  | succ n ih =>
    rw [List.range_succ, List.filter_append]
    by_cases hi : i = n
    · have hnone : (List.range n).filter (· = i) = [] := by
        refine List.filter_eq_nil_iff.2 fun j hj => ?_
        have hlt := List.mem_range.1 hj
        simp only [decide_eq_true_eq]
        omega
      rw [hnone, List.nil_append, hi, List.filter_cons_of_pos (by simp), List.filter_nil]
    · rw [ih (by omega), List.filter_cons_of_neg (by simpa using Ne.symm hi), List.filter_nil]
      rfl

namespace Interleaves

variable {parts parts' : Nat → List α} {merged : List α}

theorem congr (h : Interleaves n parts merged) (hparts : ∀ i < n, parts i = parts' i) :
    Interleaves n parts' merged := by
  obtain ⟨numbered, hmerged, hlt, hnumbered⟩ := h
  exact ⟨numbered, hmerged, hlt, fun i hi => (hnumbered i hi).trans (hparts i hi)⟩

/-- An interleaving is a permutation of the concatenation.

**Proof sketch.** Induction on the number of lists: the members with the last number go to the end
(`filter_lt_succ_perm`). -/
theorem perm (h : Interleaves n parts merged) : merged.Perm ((List.range n).flatMap parts) := by
  obtain ⟨numbered, rfl, hlt, hparts⟩ := h
  have hprefix : ∀ k ≤ n, ((numbered.filter (·.1 < k)).map Prod.snd).Perm
      ((List.range k).flatMap parts) := by
    intro k hk
    induction k with
    | zero => simp
    | succ k ih =>
      have hlast : (numbered.filter (·.1 = k)).map Prod.snd = parts k := hparts k (by omega)
      rw [List.range_succ, List.flatMap_append, List.flatMap_singleton, ← hlast]
      refine ((filter_lt_succ_perm numbered k).map Prod.snd).trans ?_
      rw [List.map_append]
      exact (ih (by omega)).append_right _
  have hall : numbered.filter (·.1 < n) = numbered :=
    List.filter_eq_self.2 fun x hx => by simpa using hlt x hx
  have hperm := hprefix n (Nat.le_refl n)
  rwa [hall] at hperm

/-- Where a function finds out the list that a member comes from, and changes the member
accordingly, it gives an interleaving of the changed lists. -/
theorem filterMap {f : Nat → α → β} {place : α → Option β} (h : Interleaves n parts merged)
    (hplace : ∀ i < n, ∀ a ∈ parts i, place a = some (f i a)) :
    Interleaves n (fun i => (parts i).map (f i)) (merged.filterMap place) := by
  obtain ⟨numbered, rfl, hlt, hparts⟩ := h
  refine ⟨numbered.map fun x => (x.1, f x.1 x.2), ?_, ?_, ?_⟩
  · have hfound : ∀ x ∈ numbered, (place ∘ Prod.snd) x = some (f x.1 x.2) := by
      intro x hx
      refine hplace x.1 (hlt x hx) x.2 ?_
      rw [← hparts x.1 (hlt x hx)]
      exact List.mem_map_of_mem (List.mem_filter.2 ⟨hx, by simp⟩)
    rw [List.map_map, List.filterMap_map, filterMap_eq_map_of_some hfound]
    rfl
  · intro x hx
    obtain ⟨y, hy, rfl⟩ := List.mem_map.1 hx
    exact hlt y hy
  · intro i hi
    show _ = (parts i).map (f i)
    rw [← hparts i hi, List.filter_map, List.map_map, List.map_map]
    refine List.map_congr_left fun x hx => ?_
    have hnumber : x.1 = i := by simpa using (List.mem_filter.1 hx).2
    show f x.1 x.2 = f i x.2
    rw [hnumber]

end Interleaves

/-- The `n` images of each member of a list, one member after another, are an interleaving of the
`n` images of the list. -/
theorem interleaves_flatMap (n : Nat) (f : Nat → α → β) (l : List α) :
    Interleaves n (fun i => l.map (f i)) (l.flatMap fun a => (List.range n).map fun i => f i a) := by
  refine ⟨l.flatMap fun a => (List.range n).map fun i => (i, f i a), ?_, ?_, ?_⟩
  · rw [List.map_flatMap]
    simp only [List.map_map]
    rfl
  · intro x hx
    obtain ⟨a, _, hx⟩ := List.mem_flatMap.1 hx
    obtain ⟨i, hi, rfl⟩ := List.mem_map.1 hx
    exact List.mem_range.1 hi
  · intro i hi
    have hone : ∀ a, ((List.range n).map fun j => (j, f j a)).filter (·.1 = i) = [(i, f i a)] := by
      intro a
      rw [List.filter_map]
      show ((List.range n).filter (· = i)).map _ = _
      rw [filter_range_eq hi]
      rfl
    rw [List.filter_flatMap]
    simp only [hone]
    rw [List.map_flatMap, List.map_eq_flatMap]
    rfl

end ServiceClause
