import ServiceClause.NameSet

/-!
# Names and the order in which they come

Names that are listed without their repetitions come in the order of their first places in the list.
The names of a set come in ascending order, whatever order they were put in.

## Main statements

* `ServiceClause.pairwise_eraseDups` — names without their repetitions.
* `ServiceClause.NameSet.ext_of_mem` — a set is determined by its members.
-/

set_option autoImplicit false

namespace ServiceClause

/-- Leaving out names does not change which of two others comes first. -/
theorem idxOf_filter_lt_iff {l : List Name} {a b : Name} {p : Name → Bool} (ha : p a = true)
    (hb : p b = true) : (l.filter p).idxOf a < (l.filter p).idxOf b ↔ l.idxOf a < l.idxOf b := by
  induction l with
  | nil => rfl
  | cons c l ih =>
    by_cases hc : p c = true
    · rw [List.filter_cons_of_pos hc, List.idxOf_cons, List.idxOf_cons, List.idxOf_cons,
        List.idxOf_cons]
      cases c == a <;> cases c == b <;> simp [ih]
    · have hca : (c == a) = false := beq_eq_false_iff_ne.2 fun h => hc (h ▸ ha)
      have hcb : (c == b) = false := beq_eq_false_iff_ne.2 fun h => hc (h ▸ hb)
      rw [List.filter_cons_of_neg hc, ih, List.idxOf_cons, List.idxOf_cons, hca, hcb]
      simp

/-- Names without their repetitions are in the order of their first places. -/
theorem pairwise_eraseDups (l : List Name) :
    l.eraseDups.Pairwise fun a b => l.idxOf a < l.idxOf b := by
  cases l with
  | nil => exact .nil
  | cons c rest =>
    have hrest := pairwise_eraseDups (rest.filter fun b => !b == c)
    have hne : ∀ n ∈ (rest.filter fun b => !b == c).eraseDups, (!n == c) = true :=
      fun n hn => (List.mem_filter.1 (List.mem_eraseDups.1 hn)).2
    have hplace : ∀ n, (!n == c) = true → (c :: rest).idxOf n = rest.idxOf n + 1 := by
      intro n hn
      rw [List.idxOf_cons, beq_eq_false_iff_ne.2 fun h => by simp [h] at hn]
      rfl
    rw [List.eraseDups_cons, List.pairwise_cons]
    refine ⟨fun n hn => ?_, hrest.imp_of_mem fun {a b} ha hb hab => ?_⟩
    · rw [hplace n (hne n hn), List.idxOf_cons_self]
      exact Nat.succ_pos _
    · rw [hplace a (hne a ha), hplace b (hne b hb), Nat.add_lt_add_iff_right]
      exact (idxOf_filter_lt_iff (hne a ha) (hne b hb)).1 hab
termination_by l.length
decreasing_by
  have hle := List.length_filter_le (fun b => !b == c) rest
  rw [List.length_cons]
  omega

theorem nodup_eraseDups (l : List Name) : l.eraseDups.Nodup := by
  refine (pairwise_eraseDups l).imp ?_
  rintro a b hlt rfl
  exact Nat.lt_irrefl _ hlt

/-- Sets with the same members are equal. -/
theorem NameSet.ext_of_mem {s t : NameSet} (h : ∀ n, n ∈ s ↔ n ∈ t) : s = t := by
  have hperm : s.toList.Perm t.toList :=
    (List.perm_ext_iff_of_nodup s.nodup_toList t.nodup_toList).2 h
  have heq : s.toList = t.toList :=
    hperm.eq_of_pairwise (fun a b _ _ hab hba => absurd hab (String.lt_asymm hba))
      s.ascending t.ascending
  cases s
  cases t
  simp_all

end ServiceClause
