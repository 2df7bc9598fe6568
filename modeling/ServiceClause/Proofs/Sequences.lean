import ServiceClause.RowSequence

/-!
# Row sequences as lists of items

Pulling a sequence to its end gives a list of items. For each way of building a sequence that list
is a function of the lists of its parts, so what a sequence gives can be computed without any state.

## Main definitions

* `ServiceClause.silentItems`, `crossItems`, `joinItems` — the items of a silenced sequence, of
  every row with every input, and of every row with the input that it names.
* `ServiceClause.okRows` — the rows among items.

## Main statements

* `ServiceClause.RowIterator.drain_eq_of_view` — a view of the states that every pull respects is
  what draining gives.
* `ServiceClause.RowSequence.toList_append`, `toList_silent`, `toList_cross`, `toList_join` and the
  other laws of `toList`.
* `ServiceClause.prefix_silentItems`, `ServiceClause.isMalformed_of_mem_silentItems` — what silencing
  keeps.
-/

set_option autoImplicit false

namespace ServiceClause

/-! ## The items of built sequences -/

/-- The items up to the first error other than a malformed query. -/
def silentItems : List Item → List Item
  | [] => []
  | .ok row :: rest => .ok row :: silentItems rest
  | .error e :: rest => if e.isMalformed then .error e :: silentItems rest else []

/-- Every row merged into each input. -/
def crossItems (inputs : List Row) (items : List Item) : List Item :=
  items.flatMap fun
    | .ok remote => inputs.map fun input => .ok (input.merge remote)
    | .error e => [.error e]

/-- Every row placed, and left out if there is no place for it. -/
def joinItems (place : Row → Option Row) (items : List Item) : List Item :=
  items.filterMap fun
    | .ok remote => (place remote).map .ok
    | .error e => some (.error e)

section

variable {inputs : List Row} {place : Row → Option Row} {remote row : Row} {items : List Item}

theorem crossItems_cons_ok : crossItems inputs (.ok remote :: items) =
    inputs.map (fun input => .ok (input.merge remote)) ++ crossItems inputs items := rfl

theorem crossItems_cons_error (e : FederationError) :
    crossItems inputs (.error e :: items) = .error e :: crossItems inputs items := rfl

theorem joinItems_cons_error (e : FederationError) :
    joinItems place (.error e :: items) = .error e :: joinItems place items := rfl

theorem joinItems_cons_of_some (h : place remote = some row) :
    joinItems place (.ok remote :: items) = .ok row :: joinItems place items := by
  simp [joinItems, h]

theorem joinItems_cons_of_none (h : place remote = none) :
    joinItems place (.ok remote :: items) = joinItems place items := by
  simp [joinItems, h]

end

/-! ## Single items -/

/-- The rows among items. -/
def okRows (items : List Item) : List Row :=
  items.filterMap Except.toOption

theorem mem_okRows {items : List Item} {row : Row} : row ∈ okRows items ↔ .ok row ∈ items := by
  unfold okRows
  rw [List.mem_filterMap]
  constructor
  · rintro ⟨item, hitem, hrow⟩
    cases item with
    | error e => simp [Except.toOption] at hrow
    | ok remote =>
      obtain rfl := Option.some.inj hrow
      exact hitem
  · intro h
    exact ⟨.ok row, h, rfl⟩

/-- Silencing keeps a beginning of the items. -/
theorem prefix_silentItems (items : List Item) : silentItems items <+: items := by
  induction items with
  | nil => exact List.prefix_rfl
  | cons item items ih =>
    cases item with
    | ok row =>
      rw [silentItems]
      exact (List.prefix_cons_inj _).2 ih
    | error e =>
      rw [silentItems]
      split
      · exact (List.prefix_cons_inj _).2 ih
      · exact List.nil_prefix

/-- The errors that silencing keeps are malformed queries. -/
theorem isMalformed_of_mem_silentItems {items : List Item} {e : FederationError}
    (h : .error e ∈ silentItems items) : e.isMalformed = true := by
  induction items with
  | nil => simp [silentItems] at h
  | cons item items ih =>
    cases item with
    | ok row => exact ih (by simpa [silentItems] using h)
    | error f =>
      rw [silentItems] at h
      by_cases hf : f.isMalformed = true
      · rw [if_pos hf] at h
        rcases List.mem_cons.1 h with h | h
        · obtain rfl := Except.error.inj h
          exact hf
        · exact ih h
      · simp [hf] at h

/-- Items whose only errors are malformed queries are left as they are. -/
theorem silentItems_of_malformed {items : List Item}
    (h : ∀ e, .error e ∈ items → e.isMalformed = true) : silentItems items = items := by
  induction items with
  | nil => rfl
  | cons item items ih =>
    have hitems : silentItems items = items := ih fun e he => h e (List.mem_cons_of_mem _ he)
    cases item with
    | ok row => rw [silentItems, hitems]
    | error e => rw [silentItems, if_pos (h e List.mem_cons_self), hitems]

theorem silentItems_rows (rows : List Row) :
    silentItems (rows.map .ok) = rows.map .ok :=
  silentItems_of_malformed fun e he => by simp at he

/-- A row among changed items is a changed row. -/
theorem exists_of_mem_map {f : Row → Row} {items : List Item} {row : Row}
    (h : .ok row ∈ items.map (Except.map f)) : ∃ r, .ok r ∈ items ∧ row = f r := by
  obtain ⟨item, hitem, hrow⟩ := List.mem_map.1 h
  cases item with
  | error e => simp [Except.map] at hrow
  | ok r => exact ⟨r, hitem, (Except.ok.inj hrow).symm⟩

theorem exists_of_mem_crossItems {inputs : List Row} {items : List Item} {row : Row}
    (h : .ok row ∈ crossItems inputs items) :
    ∃ remote, .ok remote ∈ items ∧ ∃ input ∈ inputs, row = input.merge remote := by
  obtain ⟨item, hitem, hrow⟩ := List.mem_flatMap.1 h
  cases item with
  | error e => simp at hrow
  | ok remote =>
    obtain ⟨input, hinput, hrow⟩ := List.mem_map.1 hrow
    exact ⟨remote, hitem, input, hinput, (Except.ok.inj hrow).symm⟩

theorem exists_of_mem_joinItems {place : Row → Option Row} {items : List Item} {row : Row}
    (h : .ok row ∈ joinItems place items) :
    ∃ remote, .ok remote ∈ items ∧ place remote = some row := by
  obtain ⟨item, hitem, hrow⟩ := List.mem_filterMap.1 h
  cases item with
  | error e => simp at hrow
  | ok remote =>
    obtain ⟨placed, hplaced, hrow⟩ := Option.map_eq_some_iff.1 hrow
    exact ⟨remote, hitem, hplaced.trans (congrArg some (Except.ok.inj hrow))⟩

/-- Errors come through whatever is done with the rows. -/
theorem error_mem_map {f : Row → Row} {items : List Item} {e : FederationError}
    (h : .error e ∈ items) : .error e ∈ items.map (Except.map f) :=
  List.mem_map.2 ⟨.error e, h, rfl⟩

theorem error_mem_crossItems {inputs : List Row} {items : List Item} {e : FederationError}
    (h : .error e ∈ items) : .error e ∈ crossItems inputs items :=
  List.mem_flatMap.2 ⟨.error e, h, List.mem_singleton_self _⟩

theorem error_mem_joinItems {place : Row → Option Row} {items : List Item} {e : FederationError}
    (h : .error e ∈ items) : .error e ∈ joinItems place items :=
  List.mem_filterMap.2 ⟨.error e, h, rfl⟩

/-- What remote rows give that are placed. -/
theorem joinItems_rows (place : Row → Option Row) (answer : List Row) :
    joinItems place (answer.map .ok) = (answer.filterMap place).map .ok := by
  unfold joinItems
  rw [List.filterMap_map, List.map_filterMap]
  rfl

namespace RowIterator

variable {σ τ : Type}

/-! ## Views -/

/-- A view of the states that every pull respects is what draining gives.

**Proof sketch.** Induction on the draining. -/
theorem drain_eq_of_view {it : RowIterator σ} (view : σ → List Item)
    (hnone : ∀ s s', it.next s = (none, s') → view s = [])
    (hsome : ∀ s item s', it.next s = (some item, s') → view s = item :: view s') (s : σ) :
    it.drain s = view s := by
  fun_induction it.drain s with
  | case1 s s' hnext => rw [hnone s s' hnext]
  | case2 s item s' hnext ih => rw [hsome s item s' hnext, ih]

theorem drain_of_none {it : RowIterator σ} {s s' : σ} (h : it.next s = (none, s')) :
    it.drain s = [] := by
  rw [drain]
  split
  · rfl
  · next heq => rw [h] at heq; simp at heq

theorem drain_of_some {it : RowIterator σ} {s s' : σ} {item : Item}
    (h : it.next s = (some item, s')) : it.drain s = item :: it.drain s' := by
  rw [drain]
  split
  · next heq => rw [h] at heq; simp at heq
  · next item' s'' heq =>
    rw [h] at heq
    simp only [Prod.mk.injEq, Option.some.injEq] at heq
    obtain ⟨rfl, rfl⟩ := heq
    rfl

/-! ## Draining built iterators -/

theorem drain_items (count : Nat) (l : List Item) : items.drain (count, l) = l := by
  refine drain_eq_of_view Prod.snd ?_ ?_ (count, l)
  · rintro ⟨count, _ | ⟨item, rest⟩⟩ s' h
    · rfl
    · simp [items] at h
  · rintro ⟨count, _ | ⟨item, rest⟩⟩ item' s' h
    · simp [items] at h
    · simp only [items, Prod.mk.injEq, Option.some.injEq] at h
      obtain ⟨rfl, rfl⟩ := h
      rfl

theorem drain_append_none (a : RowIterator σ) (b : RowIterator τ) (t : τ) :
    (a.append b).drain (none, t) = b.drain t := by
  symm
  refine drain_eq_of_view (fun t => (a.append b).drain (none, t)) ?_ ?_ t
  · intro t t' h
    have hn : (a.append b).next (none, t) = (none, (none, t')) := by simp [append, appendNext, h]
    exact drain_of_none hn
  · intro t item t' h
    exact drain_of_some (by simp [append, appendNext, h])

theorem drain_append (a : RowIterator σ) (b : RowIterator τ) (s : σ) (t : τ) :
    (a.append b).drain (some s, t) = a.drain s ++ b.drain t := by
  fun_induction a.drain s with
  | case1 s s' hnext =>
    have hb : (a.append b).next (some s, t) = ((b.next t).1, (none, (b.next t).2)) := by
      simp [append, appendNext, hnext]
    rw [List.nil_append, ← drain_append_none a b t]
    cases hbt : b.next t with
    | mk item? t' =>
      rw [hbt] at hb
      have hn : (a.append b).next (none, t) = (item?, (none, t')) := by
        simp [append, appendNext, hbt]
      cases item? with
      | none => rw [drain_of_none hb, drain_of_none hn]
      | some item => rw [drain_of_some hb, drain_of_some hn]
  | case2 s item s' hnext ih =>
    have happend : (a.append b).next (some s, t) = (some item, (some s', t)) := by
      simp [append, appendNext, hnext]
    rw [drain_of_some happend, ih, List.cons_append]

theorem drain_silent (it : RowIterator σ) (s : σ) :
    it.silent.drain (false, s) = silentItems (it.drain s) := by
  refine drain_eq_of_view (fun s : Bool × σ => if s.1 then [] else silentItems (it.drain s.2))
    ?_ ?_ (false, s)
  · rintro ⟨_ | _, s⟩ s' h
    · simp only [silent, silentNext] at h
      split at h
      · next hnext => simp [drain_of_none hnext, silentItems]
      · simp at h
      · next e s₁ hnext =>
        split at h
        · simp at h
        · next hm => simp [drain_of_some hnext, silentItems, hm]
    · rfl
  · rintro ⟨_ | _, s⟩ item s' h
    · simp only [silent, silentNext] at h
      split at h
      · simp at h
      · next row s₁ hnext =>
        simp only [Prod.mk.injEq, Option.some.injEq] at h
        obtain ⟨rfl, rfl⟩ := h
        simp [drain_of_some hnext, silentItems]
      · next e s₁ hnext =>
        split at h
        · next hm =>
          simp only [Prod.mk.injEq, Option.some.injEq] at h
          obtain ⟨rfl, rfl⟩ := h
          simp [drain_of_some hnext, silentItems, hm]
        · simp at h
    · simp [silent, silentNext] at h

theorem drain_map (f : Row → Row) (it : RowIterator σ) (s : σ) :
    (it.map f).drain s = (it.drain s).map (Except.map f) := by
  refine drain_eq_of_view (fun s => (it.drain s).map (Except.map f)) ?_ ?_ s
  · intro s s' h
    simp only [map, Prod.mk.injEq, Option.map_eq_none_iff] at h
    obtain ⟨hnext, rfl⟩ := h
    have hs : it.next s = (none, (it.next s).2) := by rw [← hnext]
    rw [drain_of_none hs, List.map_nil]
  · intro s item s' h
    simp only [map, Prod.mk.injEq, Option.map_eq_some_iff] at h
    obtain ⟨⟨item', hnext, rfl⟩, rfl⟩ := h
    have hs : it.next s = (some item', (it.next s).2) := by rw [← hnext]
    rw [drain_of_some hs, List.map_cons]

/-- The items that a remote row at hand still gives. -/
def pendingItems : Option (Row × List Row) → List Item
  | some (remote, rest) => rest.map fun input => .ok (input.merge remote)
  | none => []

theorem crossItems_eq_of_crossPull (it : RowIterator σ) (inputs : List Row) (s : σ) :
    crossItems inputs (it.drain s) =
      match it.crossPull inputs s with
      | (none, _) => []
      | (some item, s') => item :: (pendingItems s'.1 ++ crossItems inputs (it.drain s'.2)) := by
  fun_induction it.crossPull inputs s with
  | case1 s s' hnext => rw [drain_of_none hnext]; rfl
  | case2 s e s' hnext => rw [drain_of_some hnext]; rfl
  | case3 s remote s' hnext input rest hinputs =>
    subst hinputs
    rw [drain_of_some hnext]
    rfl
  | case4 s remote s' hnext hinputs ih =>
    subst hinputs
    rw [drain_of_some hnext, ← ih]
    rfl

/-- What the product gives in a state: what is pending, and then all that the remote items to come
give. -/
theorem drain_cross (inputs : List Row) (it : RowIterator σ) (pending : Option (Row × List Row))
    (s : σ) : (it.cross inputs).drain (pending, s) =
      pendingItems pending ++ crossItems inputs (it.drain s) := by
  have hnext : ∀ s : Option (Row × List Row) × σ,
      pendingItems s.1 ++ crossItems inputs (it.drain s.2) =
        match (it.cross inputs).next s with
        | (none, _) => []
        | (some item, s') => item :: (pendingItems s'.1 ++ crossItems inputs (it.drain s'.2)) := by
    rintro ⟨_ | ⟨remote, _ | ⟨input, rest⟩⟩, s⟩
    · exact it.crossItems_eq_of_crossPull inputs s
    · exact it.crossItems_eq_of_crossPull inputs s
    · rfl
  refine drain_eq_of_view
    (fun s => pendingItems s.1 ++ crossItems inputs (it.drain s.2)) ?_ ?_ (pending, s)
  · intro s s' h
    rw [hnext s, h]
  · intro s item s' h
    rw [hnext s, h]

theorem joinItems_eq_of_joinNext (it : RowIterator σ) (place : Row → Option Row) (s : σ) :
    joinItems place (it.drain s) =
      match it.joinNext place s with
      | (none, _) => []
      | (some item, s') => item :: joinItems place (it.drain s') := by
  fun_induction it.joinNext place s with
  | case1 s s' hnext => rw [drain_of_none hnext]; rfl
  | case2 s e s' hnext => rw [drain_of_some hnext]; rfl
  | case3 s remote s' hnext row hrow =>
    rw [drain_of_some hnext, joinItems_cons_of_some hrow]
  | case4 s remote s' hnext hnone ih =>
    rw [drain_of_some hnext, joinItems_cons_of_none hnone, ih]

theorem drain_join (place : Row → Option Row) (it : RowIterator σ) (s : σ) :
    (it.join place).drain s = joinItems place (it.drain s) := by
  refine drain_eq_of_view (fun s => joinItems place (it.drain s)) ?_ ?_ s
  · intro s s' h
    have hnext : it.joinNext place s = (none, s') := h
    rw [joinItems_eq_of_joinNext, hnext]
  · intro s item s' h
    have hnext : it.joinNext place s = (some item, s') := h
    rw [joinItems_eq_of_joinNext, hnext]

end RowIterator

/-! ## The items of sequences -/

namespace RowSequence

@[simp] theorem toList_ofItems (l : List Item) : (ofItems l).toList = l :=
  RowIterator.drain_items l.length l

@[simp] theorem toList_ofRows (rows : List Row) : (ofRows rows).toList = rows.map .ok :=
  toList_ofItems _

@[simp] theorem toList_one (row : Row) : (one row).toList = [.ok row] :=
  toList_ofRows [row]

@[simp] theorem toList_empty : empty.toList = [] :=
  toList_ofRows []

@[simp] theorem toList_failing (e : FederationError) : (failing e).toList = [.error e] :=
  RowIterator.drain_items 0 [.error e]

@[simp] theorem toList_append (a b : RowSequence) : (append a b).toList = a.toList ++ b.toList :=
  RowIterator.drain_append a.pipeline.iterator b.pipeline.iterator a.state b.state

@[simp] theorem toList_chain (parts : List RowSequence) :
    (chain parts).toList = parts.flatMap toList := by
  induction parts with
  | nil => exact toList_empty
  | cons part parts ih =>
    rw [List.flatMap_cons, ← ih]
    exact toList_append part (chain parts)

@[simp] theorem toList_silent (a : RowSequence) : a.silent.toList = silentItems a.toList :=
  RowIterator.drain_silent a.pipeline.iterator a.state

@[simp] theorem toList_silentIf (b : Bool) (a : RowSequence) :
    (a.silentIf b).toList = if b then silentItems a.toList else a.toList := by
  unfold silentIf
  split
  · exact toList_silent a
  · rfl

@[simp] theorem toList_insert (input : Row) (a : RowSequence) :
    (a.insert input).toList = a.toList.map (Except.map input.merge) :=
  RowIterator.drain_map input.merge a.pipeline.iterator a.state

@[simp] theorem toList_strip (name : Name) (a : RowSequence) :
    (a.strip name).toList = a.toList.map (Except.map (·.erase name)) :=
  RowIterator.drain_map (·.erase name) a.pipeline.iterator a.state

@[simp] theorem toList_cross (inputs : List Row) (a : RowSequence) :
    (a.cross inputs).toList = crossItems inputs a.toList :=
  RowIterator.drain_cross inputs a.pipeline.iterator none a.state

@[simp] theorem toList_join (inputs : List Row) (index : Name) (a : RowSequence) :
    (a.join inputs index).toList = joinItems (joinNamed inputs index) a.toList :=
  RowIterator.drain_join (joinNamed inputs index) a.pipeline.iterator a.state

end RowSequence

/-! ## Single items of sequences -/

theorem mem_of_mem_silentIf {rows : RowSequence} {b : Bool} {item : Item}
    (h : item ∈ (rows.silentIf b).toList) : item ∈ rows.toList := by
  rw [RowSequence.toList_silentIf] at h
  split at h
  · exact (prefix_silentItems _).mem h
  · exact h

/-- Rows stay as they are in a silent clause. -/
theorem toList_silentIf_of_rows {rows : RowSequence} {l : List Row} (h : rows.toList = l.map .ok)
    (b : Bool) : (rows.silentIf b).toList = l.map .ok := by
  rw [RowSequence.toList_silentIf, h]
  split
  · exact silentItems_rows l
  · rfl

end ServiceClause
