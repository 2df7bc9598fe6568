import ServiceClause.Proofs.Rows

/-!
# Merging rows

A row that is extended by another one keeps its variables in their places and gets the new ones of
the other behind them, in the order of the other; of two terms for one variable the other's counts.
Extending is therefore associative even as far as the order of the variables is concerned, the row
that binds nothing is neutral, and a row extended by itself is unchanged.

## Main statements

* `ServiceClause.Row.names_merge`, `ServiceClause.Row.names_erase` — the order of the variables.
* `ServiceClause.Row.merge_assoc`, `ServiceClause.Row.merge_empty`, `ServiceClause.Row.empty_merge`,
  `ServiceClause.Row.merge_self` — the laws of an idempotent monoid.
* `ServiceClause.Row.erase_merge` — unbinding a variable that only the extended row binds.
* `ServiceClause.Row.rows_form_monoid` — all of them.
-/

set_option autoImplicit false

namespace ServiceClause

namespace Row

variable (a b c : Row)

/-! ## The order of the variables -/

/-- An extended row has its own variables first, and then the others of the row that extends it. -/
theorem names_merge : (a.merge b).names = a.names ++ b.names.filter (· ∉ a.names) :=
  names_insertMany_filter b.nodup

theorem names_erase (n : Name) : (a.erase n).names = a.names.filter (· ≠ n) := by
  have herase : (a.erase n).entries = a.entries.filter fun b => b.1 ≠ n :=
    Bindings.erase_eq_filter a.nodup
  rw [names, herase, names, Bindings.keys, List.filter_map]
  rfl

/-! ## The laws of a monoid -/

/-- Extending rows one after another is the same in either grouping.

**Proof sketch.** Both rows bind a variable as the last of the three does that binds it. Their
variables are those of `a`, then those of `b` that `a` does not have, and then those of `c` that
neither of them has. -/
theorem merge_assoc : (a.merge b).merge c = a.merge (b.merge c) := by
  apply eq_of_get?
  · have hlast : c.names.filter (· ∉ (a.merge b).names) =
        (c.names.filter (· ∉ b.names)).filter (· ∉ a.names) := by
      rw [List.filter_filter]
      refine List.filter_congr fun n _ => ?_
      simp [mem_names_merge, and_comm]
    rw [names_merge, hlast, names_merge, names_merge, names_merge, List.filter_append,
      List.append_assoc]
  · intro n
    rw [get?_merge, get?_merge, get?_merge, get?_merge, Option.or_assoc]

theorem merge_empty : a.merge .empty = a := rfl

theorem empty_merge : Row.empty.merge a = a := by
  apply eq_of_get?
  · rw [names_merge]
    exact List.filter_eq_self.2 fun n _ => by simp [names, empty]
  · intro n
    rw [get?_merge]
    exact Option.or_none

/-- A row that is extended by itself gets no new variable and keeps its terms. -/
theorem merge_self : a.merge a = a := by
  apply eq_of_get?
  · have hnone : a.names.filter (· ∉ a.names) = [] :=
      List.filter_eq_nil_iff.2 fun n hn => by simpa using hn
    rw [names_merge, hnone, List.append_nil]
  · intro n
    rw [get?_merge, Option.or_self]

/-! ## Unbinding -/

/-- A variable that the row `b` does not bind can be unbound before or after extending by `b`.

**Proof sketch.** The variables of `b` that are new do not change, since the unbound one is not
among them. -/
theorem erase_merge {n : Name} (h : n ∉ b.names) : (a.merge b).erase n = (a.erase n).merge b := by
  apply eq_of_get?
  · have hnew : (b.names.filter (· ∉ a.names)).filter (· ≠ n) =
        b.names.filter (· ∉ (a.erase n).names) := by
      rw [List.filter_filter]
      refine List.filter_congr fun m hm => ?_
      have hne : m ≠ n := fun heq => h (heq ▸ hm)
      simp [mem_names_erase, hne]
    rw [names_merge, names_erase, names_merge, List.filter_append, hnew, names_erase]
  · intro m
    rw [get?_erase, get?_merge, get?_merge, get?_erase]
    by_cases hm : m = n
    · rw [if_pos hm, if_pos hm, hm, get?_eq_none_iff.2 h]
      rfl
    · rw [if_neg hm, if_neg hm]

/-! ## Main result -/

/-- **Rows form an idempotent monoid.** Rows are equal here only if they have their variables in the
same order. Extending rows is associative, the row that binds nothing is neutral on both sides, and
a row extended by itself is unchanged. The variables of an extended row are its own in their order,
followed by those that only the other row has in theirs, and each is bound as in the other row if
that binds it, and else as before. A variable that the other row does not bind may be unbound before
or after.

**Proof sketch.** A row is determined by the order of its variables and their terms
(`Row.eq_of_get?`), and both are known of extended rows (`Row.names_merge`, `Row.get?_merge`) and of
restricted ones (`Row.names_erase`, `Row.get?_erase`). -/
theorem rows_form_monoid :
    (a.merge b).merge c = a.merge (b.merge c) ∧
    a.merge .empty = a ∧ Row.empty.merge a = a ∧
    a.merge a = a ∧
    (a.merge b).names = a.names ++ b.names.filter (· ∉ a.names) ∧
    (∀ n, (a.merge b).get? n = (b.get? n).or (a.get? n)) ∧
    ∀ n, b.get? n = none → (a.merge b).erase n = (a.erase n).merge b :=
  ⟨merge_assoc a b c, merge_empty a, empty_merge a, merge_self a, names_merge a b,
    fun _ => get?_merge, fun _ h => erase_merge a b (get?_eq_none_iff.1 h)⟩

/-- A shape with a colour, and the same with another colour and a size. -/
def paintedShapes : Row × Row :=
  ((Row.empty.insert "shape" (.literal (.plain "ball"))).insert "colour" (.literal (.plain "red")),
    (Row.empty.insert "size" (.literal (.plain "3"))).insert "colour" (.literal (.plain "blue")))

/-- The shape can be unbound before or after the other row wins; the colour keeps its place. -/
theorem painted_merge :
    paintedShapes.2.get? "shape" = none ∧
      (paintedShapes.1.merge paintedShapes.2).erase "shape" =
        (paintedShapes.1.erase "shape").merge paintedShapes.2 ∧
      (paintedShapes.1.merge paintedShapes.2).names = ["shape", "colour", "size"] := by
  obtain ⟨-, -, -, -, hnames, -, herase⟩ :=
    rows_form_monoid paintedShapes.1 paintedShapes.2 .empty
  have hfree : paintedShapes.2.get? "shape" = none := by decide
  exact ⟨hfree, herase "shape" hfree, hnames.trans (by decide)⟩

end Row

end ServiceClause
