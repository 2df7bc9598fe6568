import ServiceClause.Row

/-!
# Extending and restricting rows

A row is extended by the bindings of another row, which win, and restricted by unbinding a variable.
What a row binds afterwards is told by two laws; the order of the bindings matters only where a row
is unbound from a variable that it does not bind, which leaves it as it is.

## Main statements

* `ServiceClause.Row.get?_merge` — what an extended row binds.
* `ServiceClause.Row.get?_merge_cases` — a binding is kept, or the other row has another one.
* `ServiceClause.Row.erase_of_notMem` — unbinding an unbound variable.
* `ServiceClause.Bindings.erase_eq_filter` — unbinding a variable keeps the order of the others.
* `ServiceClause.Row.eq_of_get?` — what determines a row.
-/

set_option autoImplicit false

namespace ServiceClause

namespace Bindings

variable {n : Name} {l : Bindings}

theorem erase_of_notMem (h : n ∉ keys l) : erase n l = l := by
  induction l with
  | nil => rfl
  | cons b l ih =>
    obtain ⟨m, u⟩ := b
    simp only [List.map_cons, List.mem_cons, not_or] at h
    obtain ⟨hm, hl⟩ := h
    rw [erase, if_neg (Ne.symm hm), ih hl]

theorem fst_ne_of_notMem {b : Name × Term} (hn : n ∉ keys l) (hb : b ∈ l) : b.1 ≠ n := by
  rintro rfl
  exact hn (List.mem_map_of_mem hb)

/-- Removing the first binding of a name removes all there are, and keeps the order of the others. -/
theorem erase_eq_filter (h : (keys l).Nodup) : erase n l = l.filter fun b => b.1 ≠ n := by
  induction l with
  | nil => rfl
  | cons b l ih =>
    obtain ⟨m, u⟩ := b
    obtain ⟨hm, hl⟩ := List.nodup_cons.1 h
    by_cases hmn : m = n
    · subst hmn
      have hothers : l.filter (fun b => b.1 ≠ m) = l :=
        List.filter_eq_self.2 fun b hb => decide_eq_true (fst_ne_of_notMem hm hb)
      rw [erase, if_pos rfl, List.filter_cons_of_neg (by simp), hothers]
    · rw [erase, if_neg hmn, List.filter_cons_of_pos (by simpa using hmn), ih hl]

theorem find?_eq_lookup (n : Name) (l : Bindings) : find? n l = l.lookup n := by
  induction l with
  | nil => rfl
  | cons b l ih =>
    obtain ⟨m, t⟩ := b
    by_cases h : n = m
    · simp [find?, h]
    · simp [find?, List.lookup_cons, beq_eq_false_iff_ne.2 h, ih, Ne.symm h]

/-- Bindings without repetition are determined by their names and what is found under them. -/
theorem eq_of_find? {k : Bindings} (hnodup : (keys l).Nodup) (hkeys : keys l = keys k)
    (hfind : ∀ n, find? n l = find? n k) : l = k := by
  induction l generalizing k with
  | nil => exact (List.map_eq_nil_iff.1 hkeys.symm).symm
  | cons b l ih =>
    cases k with
    | nil => cases hkeys
    | cons c k =>
      obtain ⟨m, t⟩ := b
      obtain ⟨m', u⟩ := c
      obtain ⟨hm, hrest⟩ : m = m' ∧ keys l = keys k := List.cons.inj hkeys
      subst hm
      have hterm : t = u := by simpa [find?] using hfind m
      simp only [List.map_cons, List.nodup_cons] at hnodup
      rw [hterm, ih hnodup.2 hrest fun n => ?_]
      by_cases hn : m = n
      · subst hn
        have hl : m ∉ keys l := hnodup.1
        rw [find?_eq_none_iff.2 hl, find?_eq_none_iff.2 (hrest ▸ hl)]
      · simpa [find?, hn] using hfind n

end Bindings

namespace Row

variable {r input remote : Row} {n m : Name}

/-- Of several bindings that are added, the only one for a variable counts.

**Proof sketch.** Induction on the list of added bindings; each step is the law of `Row.insert`. -/
theorem get?_insertMany {l : Bindings} (h : (Bindings.keys l).Nodup) :
    (r.insertMany l).get? n = (Bindings.find? n l).or (r.get? n) := by
  induction l generalizing r with
  | nil => rfl
  | cons b l ih =>
    obtain ⟨m, t⟩ := b
    simp only [List.map_cons, List.nodup_cons] at h
    obtain ⟨hm, hl⟩ := h
    have hstep : (r.insertMany ((m, t) :: l)).get? n = ((r.insert m t).insertMany l).get? n := rfl
    rw [hstep, ih hl, get?_insert, Bindings.find?]
    by_cases hn : n = m
    · rw [if_pos hn, if_pos hn.symm, hn, Bindings.find?_eq_none_iff.2 hm]
      rfl
    · rw [if_neg hn, if_neg (Ne.symm hn)]

/-- The variables that are added to a row come behind its own, unless it has them.

**Proof sketch.** Induction on the list of added bindings. The first of them changes which of the
others are new only if they repeat its variable, which they do not. -/
theorem names_insertMany_filter {l : Bindings} (h : (Bindings.keys l).Nodup) :
    (r.insertMany l).names = r.names ++ (Bindings.keys l).filter (· ∉ r.names) := by
  induction l generalizing r with
  | nil => simp [insertMany]
  | cons b l ih =>
    obtain ⟨m, t⟩ := b
    obtain ⟨hm, hl⟩ := List.nodup_cons.1 h
    have hstep : (r.insertMany ((m, t) :: l)).names = ((r.insert m t).insertMany l).names := rfl
    have hkeys : Bindings.keys ((m, t) :: l) = m :: Bindings.keys l := rfl
    rw [hstep, ih hl, names_insert, hkeys]
    by_cases hmem : m ∈ r.names
    · rw [if_pos hmem, List.filter_cons_of_neg (by simpa using hmem)]
    · have hnew : (Bindings.keys l).filter (· ∉ r.names ++ [m]) =
          (Bindings.keys l).filter (· ∉ r.names) := by
        refine List.filter_congr fun n hn => ?_
        have hne : n ≠ m := fun heq => hm (heq ▸ hn)
        simp [hne]
      rw [if_neg hmem, hnew, List.filter_cons_of_pos (by simpa using hmem), List.append_assoc]
      rfl

/-- A row that is made from bindings without repetition has them in their order. -/
theorem names_insertMany {l : Bindings} (h : (r.names ++ Bindings.keys l).Nodup) :
    (r.insertMany l).names = r.names ++ Bindings.keys l := by
  obtain ⟨-, hl, hdisjoint⟩ := List.nodup_append.1 h
  rw [names_insertMany_filter hl, List.filter_eq_self.2]
  intro n hn
  simpa using fun hmem => hdisjoint n hmem n hn rfl

/-- An extended row binds what the remote row binds, and otherwise what the input row binds. -/
theorem get?_merge : (input.merge remote).get? n = (remote.get? n).or (input.get? n) :=
  get?_insertMany remote.nodup

/-- What an input row binds is kept, or the remote row binds it and wins. -/
theorem get?_merge_cases (remote : Row) {t : Term} (h : input.get? n = some t) :
    (input.merge remote).get? n = some t ∨
      ∃ t', remote.get? n = some t' ∧ (input.merge remote).get? n = some t' := by
  rw [get?_merge]
  cases remote.get? n with
  | none => exact .inl h
  | some t' => exact .inr ⟨t', rfl, rfl⟩

/-- A row binds the variables that it gives a term. -/
theorem mem_names_iff : n ∈ r.names ↔ (r.get? n).isSome = true := by
  cases h : r.get? n with
  | none => simpa using get?_eq_none_iff.1 h
  | some t =>
    have hn : n ∈ r.names := by
      refine Decidable.not_not.1 fun hn => ?_
      rw [get?_eq_none_iff.2 hn] at h
      simp at h
    simpa using hn

theorem mem_names_of_get? {t : Term} (h : r.get? n = some t) : n ∈ r.names :=
  mem_names_iff.2 (by rw [h, Option.isSome_some])

theorem mem_names_merge : n ∈ (input.merge remote).names ↔ n ∈ remote.names ∨ n ∈ input.names := by
  rw [mem_names_iff, mem_names_iff, mem_names_iff, get?_merge, Option.isSome_or, Bool.or_eq_true]

theorem mem_names_erase : n ∈ (r.erase m).names ↔ n ≠ m ∧ n ∈ r.names := by
  rw [mem_names_iff, mem_names_iff, get?_erase]
  by_cases hn : n = m <;> simp [hn]

theorem erase_of_notMem (h : m ∉ r.names) : r.erase m = r :=
  ext (Bindings.erase_of_notMem h)

/-- Rows with the same bindings in the same order are equal. -/
theorem eq_of_get? {s : Row} (hnames : r.names = s.names) (hget : ∀ n, r.get? n = s.get? n) :
    r = s :=
  ext (Bindings.eq_of_find? r.nodup hnames hget)

end Row

end ServiceClause
