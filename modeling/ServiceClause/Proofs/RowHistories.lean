import Mathlib.Data.Set.Card
import ServiceClause.Proofs.Rows

/-!
# How rows are made

Every row comes from the row that binds nothing by binding and unbinding variables, by collecting
pairs in which a name may be repeated, and by extending rows that were made in the same way. None of
these steps looks at more than a list of bindings and the first binding of a name in it. That this
is enough to look up, replace and remove *the* binding of a name needs a list without repeated
names, which each of the steps leaves behind.

## Main definitions

* `ServiceClause.Bindings.putAll` — binding names in a list one after another.
* `ServiceClause.RowHistory` — how a row was made.
* `ServiceClause.RowHistory.row`, `ServiceClause.RowHistory.bindings` — the row that was made, and
  the list of bindings that the same steps make of plain lists.

## Main statements

* `ServiceClause.Bindings.put_of_mem`, `ServiceClause.Bindings.put_of_notMem` — where the bindings
  stand after a step.
* `ServiceClause.Row.names_ofList`, `ServiceClause.Row.get?_ofList` — what is collected from pairs.
* `ServiceClause.RowHistory.nodup_bindings` — no name is repeated, whatever the steps were.
* `ServiceClause.RowHistory.ordered_map` — what is looked up in a row, and in which order it stands.
-/

set_option autoImplicit false

namespace ServiceClause

namespace Bindings

variable {n : Name} {t : Term} {l more : Bindings}

/-! ## Where bindings stand -/

/-- Binding a name that is bound changes its term and nothing else. -/
theorem put_of_mem (h : (keys l).Nodup) (hn : n ∈ keys l) :
    put n t l = l.map fun b => if b.1 = n then (n, t) else b := by
  induction l with
  | nil => simp at hn
  | cons b l ih =>
    obtain ⟨m, u⟩ := b
    obtain ⟨hm, hl⟩ := List.nodup_cons.1 h
    by_cases hmn : m = n
    · subst hmn
      have hothers : ∀ b ∈ l, (if b.1 = m then (m, t) else b) = b := fun b hb =>
        if_neg (fst_ne_of_notMem hm hb)
      rw [put, if_pos rfl, List.map_cons, if_pos rfl, List.map_congr_left hothers, List.map_id']
    · have hrest : n ∈ keys l := by simpa [Ne.symm hmn] using hn
      rw [put, if_neg hmn, List.map_cons, ih hl hrest, if_neg hmn]

/-- Binding a name that is not bound appends it. -/
theorem put_of_notMem (hn : n ∉ keys l) : put n t l = l ++ [(n, t)] := by
  induction l with
  | nil => rfl
  | cons b l ih =>
    obtain ⟨m, u⟩ := b
    simp only [List.map_cons, List.mem_cons, not_or] at hn
    obtain ⟨hm, hl⟩ := hn
    rw [put, if_neg (Ne.symm hm), ih hl, List.cons_append]

/-! ## Many bindings -/

/-- Binds names in a list one after another. -/
def putAll (l more : Bindings) : Bindings :=
  more.foldl (fun l b => put b.1 b.2 l) l

theorem nodup_putAll (h : (keys l).Nodup) : (keys (putAll l more)).Nodup := by
  induction more generalizing l with
  | nil => exact h
  | cons b more ih => exact ih (nodup_put h)

end Bindings

namespace Row

theorem entries_insertMany (r : Row) (l : Bindings) :
    (r.insertMany l).entries = Bindings.putAll r.entries l := by
  induction l generalizing r with
  | nil => rfl
  | cons b l ih => exact ih (r.insert b.1 b.2)

/-! ## Collected pairs -/

theorem ofList_append (pairs : Bindings) (b : Name × Term) :
    ofList (pairs ++ [b]) = (ofList pairs).insert b.1 b.2 :=
  List.foldl_append

/-- Of pairs with the same name the first one gives the position. -/
theorem names_ofList (pairs : Bindings) :
    (ofList pairs).names = (Bindings.keys pairs).eraseDups := by
  induction pairs using List.reverseRecOn with
  | nil => rfl
  | append_singleton pairs b ih =>
    have hkeys : Bindings.keys (pairs ++ [b]) = Bindings.keys pairs ++ [b.1] := List.map_append
    rw [ofList_append, names_insert, ih, hkeys, List.eraseDups_append]
    by_cases hb : b.1 ∈ Bindings.keys pairs
    · have hnone : [b.1].removeAll (Bindings.keys pairs) = [] := by simpa [List.removeAll] using hb
      rw [if_pos (List.mem_eraseDups.2 hb), hnone, List.eraseDups_nil, List.append_nil]
    · have hnew : [b.1].removeAll (Bindings.keys pairs) = [b.1] := by
        simpa [List.removeAll] using hb
      rw [if_neg (hb ∘ List.mem_eraseDups.1), hnew, List.eraseDups_cons]
      rfl

/-- Of pairs with the same name the last one gives the term. -/
theorem get?_ofList (pairs : Bindings) (n : Name) :
    (ofList pairs).get? n = Bindings.find? n pairs.reverse := by
  induction pairs using List.reverseRecOn with
  | nil => rfl
  | append_singleton pairs b ih =>
    rw [ofList_append, get?_insert, ih, List.reverse_concat, Bindings.find?]
    by_cases hb : n = b.1
    · rw [if_pos hb, if_pos hb.symm]
    · rw [if_neg hb, if_neg (Ne.symm hb)]

/-! ## What agrees with looking up -/

theorem contains_eq_isSome (r : Row) (n : Name) : r.contains n = (r.get? n).isSome := by
  rw [Bool.eq_iff_iff, ← mem_names_iff, contains, List.contains_iff_mem]

/-- A row has as many bindings as there are names with a term. -/
theorem size_eq_ncard (r : Row) : r.size = {n | (r.get? n).isSome = true}.ncard := by
  have hset : {n | (r.get? n).isSome = true} = (r.names.toFinset : Set Name) := by
    ext n
    simp [mem_names_iff]
  have hnodup : r.names.Nodup := r.nodup
  rw [hset, Set.ncard_coe_finset, List.toFinset_card_of_nodup hnodup, names, List.length_map, size]

end Row

/-! ## Histories -/

/-- How a row was made. -/
inductive RowHistory where
  /-- The row that binds nothing. -/
  | empty
  /-- Binding `n` to `t`, in place or while the row is put together. -/
  | insert (before : RowHistory) (n : Name) (t : Term)
  /-- Unbinding `n`. -/
  | erase (before : RowHistory) (n : Name)
  /-- Collecting pairs, in which a name may be repeated. -/
  | collect (pairs : Bindings)
  /-- Extending the row `input` by the row `remote`. -/
  | join (input remote : RowHistory)

namespace RowHistory

/-- The row that was made. -/
def row : RowHistory → Row
  | empty => .empty
  | insert before n t => before.row.insert n t
  | erase before n => before.row.erase n
  | collect pairs => .ofList pairs
  | join input remote => input.row.merge remote.row

/-- The list of bindings that the same steps make of plain lists. -/
def bindings : RowHistory → Bindings
  | empty => []
  | insert before n t => Bindings.put n t before.bindings
  | erase before n => Bindings.erase n before.bindings
  | collect pairs => Bindings.putAll [] pairs
  | join input remote => Bindings.putAll input.bindings remote.bindings

/-- A row has the bindings that the same steps make of plain lists. -/
theorem entries_row (h : RowHistory) : h.row.entries = h.bindings := by
  induction h with
  | empty => rfl
  | insert before n t ih => exact congrArg (Bindings.put n t) ih
  | erase before n ih => exact congrArg (Bindings.erase n) ih
  | collect pairs => exact Row.entries_insertMany .empty pairs
  | join input remote ihInput ihRemote =>
    rw [row, Row.merge, Row.entries_insertMany, ihInput, ihRemote, bindings]

/-- No name is repeated, though the lists themselves do not keep that from happening.

**Proof sketch.** Induction on the history. Each step keeps names apart that were kept apart before
it, and collecting starts from nothing. -/
theorem nodup_bindings (h : RowHistory) : (Bindings.keys h.bindings).Nodup := by
  induction h with
  | empty => exact List.nodup_nil
  | insert before n t ih => exact Bindings.nodup_put ih
  | erase before n ih => exact Bindings.nodup_erase ih
  | collect pairs => exact Bindings.nodup_putAll List.nodup_nil
  | join input remote ih _ => exact Bindings.nodup_putAll ih

/-! ## Main result -/

/-- **Rows are finite maps that keep the order of insertion.** Whatever was done to make a row, it
has the bindings that the same steps make of plain lists, and no name is repeated among them.
Binding a variable makes it give the new term, unbinding it makes it give none, and in both cases
every other variable gives what it gave before. A variable that is bound again keeps its position,
as all others do, and a new one comes last; unbinding one keeps the others in their order. Which
variables are bound, how many there are, their list and their set all agree with what is looked up.
Of collected pairs with the same name the first gives the position and the last the term.

**Proof sketch.** Names stay apart through every history (`RowHistory.nodup_bindings`). So the first
binding of a name is the only one, and replacing or removing it does to the list what it does to
the map. -/
theorem ordered_map (h : RowHistory) :
    h.row.entries = h.bindings ∧ h.row.names.Nodup ∧
    (∀ n t m, (h.row.insert n t).get? m = if m = n then some t else h.row.get? m) ∧
    (∀ n m, (h.row.erase n).get? m = if m = n then none else h.row.get? m) ∧
    (∀ n t, (h.row.insert n t).entries =
      if n ∈ h.row.names then h.row.entries.map fun b => if b.1 = n then (n, t) else b
      else h.row.entries ++ [(n, t)]) ∧
    (∀ n, (h.row.erase n).entries = h.row.entries.filter fun b => b.1 ≠ n) ∧
    (∀ n, h.row.contains n = (h.row.get? n).isSome ∧
      (n ∈ h.row.names ↔ (h.row.get? n).isSome = true) ∧
      (n ∈ h.row.nameSet ↔ (h.row.get? n).isSome = true)) ∧
    h.row.size = {n | (h.row.get? n).isSome = true}.ncard ∧
    ∀ pairs, (Row.ofList pairs).names = (Bindings.keys pairs).eraseDups ∧
      ∀ n, (Row.ofList pairs).get? n = Bindings.find? n pairs.reverse := by
  have hnodup : (Bindings.keys h.row.entries).Nodup := h.entries_row ▸ h.nodup_bindings
  refine ⟨h.entries_row, hnodup, fun n t m => Row.get?_insert, fun n m => Row.get?_erase,
    fun n t => ?_, fun n => Bindings.erase_eq_filter hnodup,
    fun n => ⟨h.row.contains_eq_isSome n, Row.mem_names_iff, ?_⟩, h.row.size_eq_ncard,
    fun pairs => ⟨Row.names_ofList pairs, Row.get?_ofList pairs⟩⟩
  · by_cases hn : n ∈ h.row.names
    · rw [if_pos hn]
      exact Bindings.put_of_mem hnodup hn
    · rw [if_neg hn]
      exact Bindings.put_of_notMem hn
  · rw [Row.mem_nameSet, Row.mem_names_iff]

end RowHistory

end ServiceClause
