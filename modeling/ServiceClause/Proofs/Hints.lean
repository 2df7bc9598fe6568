import ServiceClause.Proofs.Joins.CrossProduct

/-!
# How many rows are to come

A sequence may say how many rows to expect. What it says when it is put together is what it gives,
unless there are errors among its items. From then on it is a bound: a count is not made smaller by
the rows that have been pulled, and a part that has come to its end still counts until the next part
is reached.

## Main definitions

* `ServiceClause.Pipeline.Bounded` — states in which the counts of the items at hand are not too
  small.
* `ServiceClause.RowSequence.Fresh` — sequences as they are put together.

## Main statements

* `ServiceClause.Pipeline.bounded_next`, `ServiceClause.Pipeline.length_okRows_le` — the hint stays
  a bound.
* `ServiceClause.RowSequence.Fresh.hint_eq` — the hint of a new sequence without errors.
* `ServiceClause.RowSequence.hint_bounds_rows` — what a hint says at any time.
-/

set_option autoImplicit false

namespace ServiceClause

/-! ## Numbers of rows -/

section

variable {items : List Item}

theorem okRows_append (first second : List Item) :
    okRows (first ++ second) = okRows first ++ okRows second :=
  List.filterMap_append

/-- Changing every row does not change how many there are. -/
theorem length_okRows_map (f : Row → Row) (items : List Item) :
    (okRows (items.map (Except.map f))).length = (okRows items).length := by
  induction items with
  | nil => rfl
  | cons item items ih =>
    cases item with
    | error e => exact ih
    | ok row => exact congrArg (· + 1) ih

/-- Without errors every item is a row. -/
theorem length_okRows_of_no_error (h : ∀ e, .error e ∉ items) :
    (okRows items).length = items.length := by
  induction items with
  | nil => rfl
  | cons item items ih =>
    cases item with
    | error e => exact absurd List.mem_cons_self (h e)
    | ok row => exact congrArg (· + 1) (ih fun e he => h e (List.mem_cons_of_mem _ he))

/-- A row of the product comes from a row and an input. -/
theorem length_okRows_crossItems (inputs : List Row) (items : List Item) :
    (okRows (crossItems inputs items)).length = (okRows items).length * inputs.length := by
  induction items with
  | nil => exact (Nat.zero_mul _).symm
  | cons item items ih =>
    cases item with
    | error e => exact ih
    | ok remote =>
      have hpairs : (okRows (inputs.map fun input => .ok (input.merge remote))).length =
          inputs.length := by
        rw [length_okRows_of_no_error fun e he => by simp at he, List.length_map]
      have hrows : (okRows (.ok remote :: items)).length = (okRows items).length + 1 := rfl
      rw [crossItems_cons_ok, okRows_append, List.length_append, hpairs, ih, hrows, Nat.succ_mul,
        Nat.add_comm]

end

/-! ## States -/

namespace RowIterator

variable {σ : Type} {it : RowIterator σ}

/-- What every pull of the inner iterator keeps is kept by a pull from the product. -/
theorem crossNext_keeps {P : σ → Prop} (hnext : ∀ s, P s → P (it.next s).2) (inputs : List Row)
    (pending : Option (Row × List Row)) {s : σ} (h : P s) :
    P (it.crossNext inputs (pending, s)).2.2 := by
  have hpull : ∀ s, P s → P (it.crossPull inputs s).2.2 := by
    intro s h
    fun_induction it.crossPull inputs s with
    | case1 s s' hs => simpa only [hs] using hnext s h
    | case2 s e s' hs => simpa only [hs] using hnext s h
    | case3 s remote s' hs input rest hinputs => simpa only [hs] using hnext s h
    | case4 s remote s' hs hinputs ih =>
      subst hinputs
      exact ih (by simpa only [hs] using hnext s h)
  rcases pending with _ | ⟨remote, _ | ⟨input, rest⟩⟩
  · exact hpull s h
  · exact hpull s h
  · exact h

end RowIterator

namespace Pipeline

/-- Whether the counts of the items at hand are not too small. A part that has no hint, or that has
been left behind, does not matter. -/
def Bounded : (p : Pipeline) → p.State → Prop
  | items => fun s => (okRows s.2).length ≤ s.1
  | append p q => fun s => (∀ first, s.1 = some first → p.Bounded first) ∧ q.Bounded s.2
  | silent _ => fun _ => True
  | insert _ p => fun s => p.Bounded s
  | strip _ p => fun s => p.Bounded s
  | cross _ p => fun s => p.Bounded s.2
  | join _ _ _ => fun _ => True

/-- Counts that are not too small stay so.

**Proof sketch.** Induction on the pipeline. A pull from items leaves fewer of them and the count as
it is; a chain passes the pull on to one of its parts or to both. -/
theorem bounded_next (p : Pipeline) {s : p.State} (h : p.Bounded s) :
    p.Bounded (p.iterator.next s).2 := by
  induction p with
  | items =>
    obtain ⟨count, _ | ⟨item, rest⟩⟩ := s
    · exact h
    · refine Nat.le_trans (List.Sublist.length_le ?_) h
      exact (List.sublist_cons_self item rest).filterMap _
  | append p q ihp ihq =>
    obtain ⟨s?, t⟩ := s
    obtain ⟨hfirst, hsecond⟩ := h
    cases s? with
    | none => exact ⟨fun _ hfirst => (by cases hfirst), ihq hsecond⟩
    | some first =>
      have hp := ihp (hfirst first rfl)
      show Bounded (append p q) (RowIterator.appendNext _ _ _).2
      rw [RowIterator.appendNext]
      split
      · next item first' hnext =>
        rw [hnext] at hp
        exact ⟨fun _ h => Option.some.inj h ▸ hp, hsecond⟩
      · exact ⟨fun _ hfirst => (by cases hfirst), ihq hsecond⟩
  | silent p _ => trivial
  | insert input p ih => exact ih h
  | strip name p ih => exact ih h
  | cross inputs p ih =>
    exact RowIterator.crossNext_keeps (fun _ => ih) inputs s.1 h
  | join inputs index p _ => trivial

/-- As long as the counts are not too small, no more rows come than the hint says. -/
theorem length_okRows_le (p : Pipeline) {s : p.State} (h : p.Bounded s) {n : Nat}
    (hhint : p.iterator.hint s = some n) : (okRows (p.iterator.drain s)).length ≤ n := by
  induction p generalizing n with
  | items =>
    obtain ⟨count, l⟩ := s
    obtain rfl := Option.some.inj hhint
    show (okRows (RowIterator.items.drain (count, l))).length ≤ count
    rw [RowIterator.drain_items]
    exact h
  | append p q ihp ihq =>
    obtain ⟨s?, t⟩ := s
    obtain ⟨hfirst, hsecond⟩ := h
    cases s? with
    | none =>
      show (okRows ((p.iterator.append q.iterator).drain (none, t))).length ≤ n
      rw [RowIterator.drain_append_none]
      exact ihq hsecond hhint
    | some first =>
      obtain ⟨i, hi, j, hj, rfl⟩ : ∃ i, p.iterator.hint first = some i ∧
          ∃ j, q.iterator.hint t = some j ∧ i + j = n := by
        simpa [iterator, RowIterator.append, Option.bind_eq_some_iff] using hhint
      show (okRows ((p.iterator.append q.iterator).drain (some first, t))).length ≤ i + j
      rw [RowIterator.drain_append, okRows_append, List.length_append]
      exact Nat.add_le_add (ihp (hfirst first rfl) hi) (ihq hsecond hj)
  | silent p _ => cases hhint
  | insert input p ih =>
    have hitems : (insert input p).iterator.drain s =
        (p.iterator.drain s).map (Except.map input.merge) := RowIterator.drain_map _ p.iterator s
    rw [hitems, length_okRows_map]
    exact ih h hhint
  | strip name p ih =>
    have hitems : (strip name p).iterator.drain s =
        (p.iterator.drain s).map (Except.map (·.erase name)) := RowIterator.drain_map _ p.iterator s
    rw [hitems, length_okRows_map]
    exact ih h hhint
  | cross inputs p ih =>
    obtain ⟨pending, s⟩ := s
    cases pending with
    | some pair => cases hhint
    | none =>
      obtain ⟨i, hi, rfl⟩ := Option.map_eq_some_iff.1 hhint
      show (okRows ((p.iterator.cross inputs).drain (none, s))).length ≤ i * inputs.length
      rw [RowIterator.drain_cross]
      exact Nat.le_trans (Nat.le_of_eq (length_okRows_crossItems inputs _))
        (Nat.mul_le_mul_right _ (ih h hi))
  | join inputs index p _ => cases hhint

end Pipeline

/-! ## Sequences -/

namespace RowSequence

/-- Sequences as they are put together from rows and errors at hand, before the first pull. -/
inductive Fresh : RowSequence → Prop where
  /-- Items at hand. -/
  | items (l : List Item) : Fresh (ofItems l)
  /-- A single error. -/
  | failing (e : FederationError) : Fresh (failing e)
  /-- One part after another. -/
  | chain {parts : List RowSequence} (h : ∀ part ∈ parts, Fresh part) : Fresh (chain parts)
  /-- Up to the first error that is not a malformed query. -/
  | silent {a : RowSequence} (h : Fresh a) : Fresh a.silent
  /-- Every row extends an input. -/
  | insert {a : RowSequence} (input : Row) (h : Fresh a) : Fresh (a.insert input)
  /-- Every row without one of its variables. -/
  | strip {a : RowSequence} (name : Name) (h : Fresh a) : Fresh (a.strip name)
  /-- Every row with every input. -/
  | cross {a : RowSequence} (inputs : List Row) (h : Fresh a) : Fresh (a.cross inputs)
  /-- Every row with the input that it names. -/
  | join {a : RowSequence} (inputs : List Row) (index : Name) (h : Fresh a) :
      Fresh (a.join inputs index)

theorem fresh_ofRows (rows : List Row) : (ofRows rows).Fresh := .items _

theorem hint_append {a b : RowSequence} {n : Nat} (h : (append a b).hint = some n) :
    ∃ i, a.hint = some i ∧ ∃ j, b.hint = some j ∧ i + j = n := by
  simpa [hint, append, Pipeline.iterator, RowIterator.append, Option.bind_eq_some_iff] using h

variable {a : RowSequence} {n : Nat}

theorem Fresh.bounded (h : a.Fresh) : a.pipeline.Bounded a.state := by
  induction h with
  | items l => exact List.length_filterMap_le _ l
  | failing e => exact Nat.le_refl 0
  | @chain parts h ih =>
    clear h
    induction parts with
    | nil => exact Nat.le_refl 0
    | cons part parts ihparts =>
      refine ⟨fun first hfirst => ?_, ihparts fun other hother => ih other (.tail _ hother)⟩
      obtain rfl := Option.some.inj hfirst
      exact ih part (.head _)
  | silent _ _ => trivial
  | insert _ _ ih => exact ih
  | strip _ _ ih => exact ih
  | cross _ _ ih => exact ih
  | join _ _ _ _ => trivial

theorem bounded_after (h : a.pipeline.Bounded a.state) (n : Nat) :
    (a.after n).pipeline.Bounded (a.after n).state := by
  induction n generalizing a with
  | zero => exact h
  | succ n ih => exact ih (a.pipeline.bounded_next h)

/-- The hint of a new sequence without errors is the number of its rows.

**Proof sketch.** Induction on how the sequence was put together. An error in a part would come
through, so that the parts have none either. -/
theorem Fresh.hint_eq (h : a.Fresh) (herror : ∀ e, .error e ∉ a.toList)
    (hhint : a.hint = some n) : (okRows a.toList).length = n := by
  induction h generalizing n with
  | items l =>
    obtain rfl := Option.some.inj hhint
    rw [toList_ofItems] at herror ⊢
    exact length_okRows_of_no_error herror
  | failing e =>
    rw [toList_failing] at herror
    exact absurd (List.mem_singleton_self _) (herror e)
  | @chain parts h ih =>
    clear h
    induction parts generalizing n with
    | nil =>
      obtain rfl : 0 = n := Option.some.inj hhint
      exact congrArg (okRows · |>.length) toList_empty
    | cons part parts ihparts =>
      obtain ⟨i, hi, j, hj, rfl⟩ := hint_append hhint
      have hitems : (RowSequence.chain (part :: parts)).toList =
          part.toList ++ (RowSequence.chain parts).toList := toList_append _ _
      rw [hitems] at herror ⊢
      rw [okRows_append, List.length_append,
        ih part (.head _) (fun e he => herror e (List.mem_append_left _ he)) hi,
        ihparts (fun other hother => ih other (.tail _ hother))
          (fun e he => herror e (List.mem_append_right _ he)) hj]
  | silent _ _ => cases hhint
  | insert input _ ih =>
    rw [toList_insert] at herror ⊢
    rw [length_okRows_map]
    exact ih (fun e he => herror e (error_mem_map he)) hhint
  | strip name _ ih =>
    rw [toList_strip] at herror ⊢
    rw [length_okRows_map]
    exact ih (fun e he => herror e (error_mem_map he)) hhint
  | cross inputs _ ih =>
    obtain ⟨i, hi, rfl⟩ := Option.map_eq_some_iff.1 hhint
    rw [toList_cross] at herror ⊢
    rw [length_okRows_crossItems, ih (fun e he => herror e (error_mem_crossItems he)) hi]
  | join _ _ _ _ => cases hhint

/-! ## Main result -/

/-- **What a hint says.** Take any sequence put together from rows and errors at hand, by chaining,
silencing, extending an input, removing a variable, pairing with inputs and joining by index, in
whatever order and depth. The pulls from it give its items one by one and then nothing for good: no
pull gives anything after one that gave nothing. After any number of pulls, if the sequence has a
hint, no more rows come than the hint says, however many pulls follow. Before the first pull, if
there are no errors among the items, the hint is the number of rows.

**Proof sketch.** Every pipeline is fused (`Pipeline.fused_iterator`). The counts of the items at
hand are not too small at first, no pull changes that (`Pipeline.bounded_next`), and as long as it
is so the hint is a bound (`Pipeline.length_okRows_le`). -/
theorem hint_bounds_rows (h : a.Fresh) :
    (∀ m, a.given m = a.toList.take m) ∧
      (∀ n m k, (a.after n).hint = some k → (okRows ((a.after n).given m)).length ≤ k) ∧
      ((∀ e, .error e ∉ a.toList) → ∀ k, a.hint = some k → (okRows a.toList).length = k) ∧
      ∀ n, a.pull n = none → ∀ m, n ≤ m → a.pull m = none := by
  refine ⟨a.given_eq_take, fun n m k hhint => ?_, fun herror k => h.hint_eq herror,
    fun n hn m => pull_eq_none_of_le hn⟩
  have hrows : (okRows (a.after n).toList).length ≤ k :=
    (a.after n).pipeline.length_okRows_le (bounded_after h.bounded n) hhint
  rw [given_eq_take]
  exact Nat.le_trans ((List.take_sublist m _).filterMap _).length_le hrows

/-- A red row, and then two shapes in two colours, between which the connection is lost or not. -/
def redThenShapes (between : List Item) : RowSequence :=
  chain [ofRows [colourRow "red"],
    (ofItems (.ok (shapeRow "disc") :: between ++ [.ok (shapeRow "ring")])).cross
      [colourRow "red", colourRow "blue"]]

/-- After the red row the hint still counts it, and also the lost connection for two rows: it is
seven, and four rows come. Without the lost connection the hint is right at first. -/
theorem redThenShapes_rows :
    (((redThenShapes [.error (.connection "lost")]).after 1).hint = some 7 ∧
      ∀ m, (okRows (((redThenShapes [.error (.connection "lost")]).after 1).given m)).length ≤ 7) ∧
    (redThenShapes []).hint = some 5 ∧ (okRows (redThenShapes []).toList).length = 5 := by
  have hfresh : ∀ between, (redThenShapes between).Fresh := by
    intro between
    refine .chain fun part hpart => ?_
    simp only [List.mem_cons, List.not_mem_nil, or_false] at hpart
    rcases hpart with rfl | rfl
    · exact fresh_ofRows _
    · exact .cross _ (.items _)
  have herror : ∀ e, .error e ∉ (redThenShapes []).toList := by
    intro e he
    simp [redThenShapes, crossItems] at he
  have hhint : ((redThenShapes [.error (.connection "lost")]).after 1).hint = some 7 := rfl
  exact ⟨⟨hhint, fun m => (hint_bounds_rows (hfresh _)).2.1 1 m 7 hhint⟩, rfl,
    (hint_bounds_rows (hfresh [])).2.2.1 herror 5 rfl⟩

end RowSequence

end ServiceClause
