import ServiceClause.Proofs.Joins.InnerPulls

/-!
# Pulls from a silenced iterator

An iterator may go on after an error, and after a pull that gave nothing. A silenced iterator does
not: it gives what the inner one gives as long as that is a row or a malformed query, and from the
first pull on that gives anything else it gives nothing and leaves the inner iterator alone. Because
it remembers that it has ended, silencing it once more changes nothing, and it does not matter
whether the remote rows are silenced before they are joined with the input rows or after.

## Main definitions

* `ServiceClause.passes` — what silencing lets through.
* `ServiceClause.RowIterator.pull` — what a single pull gives.
* `ServiceClause.RowIterator.played` — an iterator that gives what a sequence says, pull by pull.

## Main statements

* `ServiceClause.RowIterator.pull_eq_of_simulation` — iterators whose states correspond give the
  same.
* `ServiceClause.RowIterator.after_silent_of_passes`,
  `ServiceClause.RowIterator.after_silent_of_stops` — how far a silenced iterator reads.
* `ServiceClause.RowIterator.next_silent_join` — one pull of a silenced iterator that is joined.
* `ServiceClause.RowIterator.pull_silent_cross` — pulls of one that is multiplied with the input.
* `ServiceClause.RowIterator.silenced_pulls` — all pulls.
-/

set_option autoImplicit false

namespace ServiceClause

/-- Whether silencing lets through what a pull gives: a row, or a malformed query. -/
def passes : Option Item → Bool
  | some (.ok _) => true
  | some (.error e) => e.isMalformed
  | none => false

namespace RowIterator

variable {σ τ : Type}

/-! ## Single pulls -/

/-- The state after `n` pulls. -/
def after (it : RowIterator σ) : Nat → σ → σ
  | 0, s => s
  | n + 1, s => it.after n (it.next s).2

/-- What is pulled after `n` other pulls. -/
def pull (it : RowIterator σ) (n : Nat) (s : σ) : Option Item := (it.next (it.after n s)).1

theorem pull_succ (it : RowIterator σ) (n : Nat) (s : σ) :
    it.pull (n + 1) s = it.pull n (it.next s).2 := rfl

/-- Iterators give the same, pull by pull, if their states correspond at first and every pull from
states that correspond gives the same and leads to such states. -/
theorem pull_eq_of_simulation {a : RowIterator σ} {b : RowIterator τ} (corresponds : σ → τ → Prop)
    (hnext : ∀ {s t}, corresponds s t →
      (a.next s).1 = (b.next t).1 ∧ corresponds (a.next s).2 (b.next t).2)
    {s : σ} {t : τ} (h : corresponds s t) (n : Nat) : a.pull n s = b.pull n t := by
  induction n generalizing s t with
  | zero => exact (hnext h).1
  | succ n ih => exact ih (hnext h).2

/-- The iterator that gives what a sequence says, whatever that is, for a number of pulls, and
nothing afterwards. -/
def played (f : Nat → Option Item) (length : Nat) : RowIterator Nat where
  next i := (if i < length then f i else none, i + 1)
  hint _ := none
  size i := length - i
  size_lt := by
    intro i item j h
    simp only [Prod.mk.injEq] at h
    obtain ⟨hitem, rfl⟩ := h
    split at hitem
    · omega
    · cases hitem

theorem after_played (f : Nat → Option Item) (length n i : Nat) :
    (played f length).after n i = i + n := by
  induction n generalizing i with
  | zero => rfl
  | succ n ih =>
    rw [after, ih]
    show i + 1 + n = i + (n + 1)
    omega

theorem pull_played {f : Nat → Option Item} {length n : Nat} (h : n < length) :
    (played f length).pull n 0 = f n := by
  rw [pull, after_played, Nat.zero_add]
  exact if_pos h

/-! ## Counting -/

theorem after_counting (it : RowIterator σ) (n : Nat) (s : σ) (m : Nat) :
    it.counting.after n (s, m) = (it.after n s, m + n) := by
  induction n generalizing s m with
  | zero => rfl
  | succ n ih =>
    show it.counting.after n ((it.next s).2, m + 1) = _
    rw [ih, Nat.add_assoc, Nat.add_comm 1 n]
    rfl

theorem pull_counting (it : RowIterator σ) (n : Nat) (s : σ) (m : Nat) :
    it.counting.pull n (s, m) = it.pull n s := by
  rw [pull, after_counting]
  rfl

/-! ## What a silenced iterator reads -/

section Silent

variable {it : RowIterator σ} {s s' : σ} {item? : Option Item} {k n : Nat}

theorem next_silent_of_passes (h : it.next s = (item?, s')) (hpasses : passes item? = true) :
    it.silent.next (false, s) = (item?, (false, s')) := by
  match item?, hpasses with
  | some (.ok row), _ => simp [silent, silentNext, h]
  | some (.error e), hpasses =>
    have hmalformed : e.isMalformed = true := hpasses
    simp [silent, silentNext, h, hmalformed]

theorem next_silent_of_stops (h : it.next s = (item?, s')) (hstops : passes item? = false) :
    it.silent.next (false, s) = (none, (true, s')) := by
  match item?, hstops with
  | none, _ => simp [silent, silentNext, h]
  | some (.error e), hstops =>
    have hmalformed : e.isMalformed = false := hstops
    simp [silent, silentNext, h, hmalformed]

/-- An iterator that has ended is not read again. -/
theorem after_silent_ended (it : RowIterator σ) (n : Nat) (s : σ) :
    it.silent.after n (true, s) = (true, s) := by
  induction n with
  | zero => rfl
  | succ n ih => exact ih

/-- As long as all that is pulled may pass, a silenced iterator reads along. -/
theorem after_silent_of_passes (h : ∀ k < n, passes (it.pull k s) = true) :
    it.silent.after n (false, s) = (false, it.after n s) := by
  induction n generalizing s with
  | zero => rfl
  | succ n ih =>
    have hpass : passes (it.next s).1 = true := h 0 n.succ_pos
    rw [after, next_silent_of_passes rfl hpass]
    exact ih fun k hk => h (k + 1) (Nat.succ_lt_succ hk)

/-- A silenced iterator reads on to the first pull that must not pass, and no further.

**Proof sketch.** It reads along up to this pull (`after_silent_of_passes`), ends with it, and stays
as it is (`after_silent_ended`). -/
theorem after_silent_of_stops (hbefore : ∀ j < k, passes (it.pull j s) = true)
    (hstops : passes (it.pull k s) = false) (hk : k < n) :
    it.silent.after n (false, s) = (true, it.after (k + 1) s) := by
  obtain ⟨m, rfl⟩ : ∃ m, n = m + 1 := ⟨n - 1, by omega⟩
  induction k generalizing s m with
  | zero =>
    have hstop : passes (it.next s).1 = false := hstops
    rw [after, next_silent_of_stops rfl hstop]
    exact it.after_silent_ended m _
  | succ k ih =>
    have hpass : passes (it.next s).1 = true := hbefore 0 k.succ_pos
    obtain ⟨m, rfl⟩ : ∃ m', m = m' + 1 := ⟨m - 1, by omega⟩
    rw [after, next_silent_of_passes rfl hpass]
    exact ih (fun j hj => hbefore (j + 1) (Nat.succ_lt_succ hj)) hstops m (by omega)

/-- From the first pull that must not pass on, a silenced iterator gives nothing. -/
theorem pull_silent_of_stops (hstops : passes (it.pull k s) = false) (hk : k ≤ n) :
    it.silent.pull n (false, s) = none := by
  induction n generalizing s k with
  | zero =>
    obtain rfl : k = 0 := Nat.le_zero.1 hk
    exact congrArg Prod.fst (next_silent_of_stops rfl hstops)
  | succ n ih =>
    rw [pull_succ]
    cases hpass : passes (it.next s).1 with
    | true =>
      cases k with
      | zero =>
        rw [pull, after, hpass] at hstops
        cases hstops
      | succ k =>
        rw [next_silent_of_passes rfl hpass]
        exact ih hstops (Nat.le_of_succ_le_succ hk)
    | false =>
      rw [next_silent_of_stops rfl hpass, pull, after_silent_ended]
      rfl

/-- A silenced iterator gives what the inner one gives as long as all of that may pass. -/
theorem pull_silent_eq (it : RowIterator σ) (n : Nat) (s : σ) :
    it.silent.pull n (false, s) =
      if ∀ k ≤ n, passes (it.pull k s) = true then it.pull n s else none := by
  by_cases h : ∀ k ≤ n, passes (it.pull k s) = true
  · have hstate := after_silent_of_passes fun k hk => h k (Nat.le_of_lt hk)
    rw [if_pos h, pull, hstate, next_silent_of_passes rfl (h n (Nat.le_refl n))]
    rfl
  · obtain ⟨k, hk⟩ := Classical.not_forall.1 h
    obtain ⟨hle, hstops⟩ := Classical.not_imp.1 hk
    rw [if_neg h, pull_silent_of_stops (Bool.not_eq_true _ ▸ hstops) hle]

end Silent

/-! ## Silence before and after -/

section Layers

variable (it : RowIterator σ) (inputs : List Row) (place : Row → Option Row) (f : Row → Row)

/-- Both layers of an iterator that is silenced twice end together. -/
theorem pull_silent_silent (n : Nat) (s : σ) :
    it.silent.silent.pull n (false, (false, s)) = it.silent.pull n (false, s) := by
  refine pull_eq_of_simulation (fun x y => x = (y.1, y)) ?_ rfl n
  rintro _ ⟨ended, s⟩ rfl
  cases ended with
  | true => exact ⟨rfl, rfl⟩
  | false =>
    cases hpass : passes (it.next s).1 with
    | true =>
      have hinner : it.silent.next (false, s) = ((it.next s).1, (false, (it.next s).2)) :=
        next_silent_of_passes rfl hpass
      rw [next_silent_of_passes hinner hpass, hinner]
      exact ⟨rfl, rfl⟩
    | false =>
      have hinner : it.silent.next (false, s) = (none, (true, (it.next s).2)) :=
        next_silent_of_stops rfl hpass
      rw [next_silent_of_stops hinner rfl, hinner]
      exact ⟨rfl, rfl⟩

theorem passes_map (item? : Option Item) : passes (item?.map (Except.map f)) = passes item? := by
  match item? with
  | none => rfl
  | some (.ok row) => rfl
  | some (.error e) => rfl

/-- Rows may be silenced before they are changed or after. -/
theorem next_silent_map (x : Bool × σ) : (it.silent.map f).next x = (it.map f).silent.next x := by
  obtain ⟨ended, s⟩ := x
  cases ended with
  | true => rfl
  | false =>
    have hmap : (it.map f).next s = ((it.next s).1.map (Except.map f), (it.next s).2) := rfl
    cases hpass : passes (it.next s).1 with
    | true =>
      rw [next_silent_of_passes hmap ((passes_map f _).trans hpass)]
      simp only [map, next_silent_of_passes rfl hpass]
    | false =>
      rw [next_silent_of_stops hmap ((passes_map f _).trans hpass)]
      simp only [map, next_silent_of_stops rfl hpass]
      rfl

/-- Rows that name an input may be silenced before they are joined with it or after. -/
theorem next_silent_join (x : Bool × σ) :
    (it.silent.join place).next x = (it.join place).silent.next x := by
  obtain ⟨ended, s⟩ := x
  cases ended with
  | true => exact joinNext_of_none rfl
  | false =>
    show it.silent.joinNext place (false, s) = _
    fun_induction it.joinNext place s with
    | case1 s s' hnext =>
      have hjoin : (it.join place).next s = (none, s') := joinNext_of_none hnext
      rw [joinNext_of_none (next_silent_of_stops hnext rfl), next_silent_of_stops hjoin rfl]
    | case2 s e s' hnext =>
      have hjoin : (it.join place).next s = (some (.error e), s') := joinNext_of_error hnext
      cases hmalformed : e.isMalformed with
      | true =>
        rw [joinNext_of_error (next_silent_of_passes hnext hmalformed),
          next_silent_of_passes hjoin hmalformed]
      | false =>
        rw [joinNext_of_none (next_silent_of_stops hnext hmalformed),
          next_silent_of_stops hjoin hmalformed]
    | case3 s remote s' hnext row hrow =>
      have hjoin : (it.join place).next s = (some (.ok row), s') := joinNext_of_placed hnext hrow
      rw [joinNext_of_placed (next_silent_of_passes hnext rfl) hrow, next_silent_of_passes hjoin rfl]
    | case4 s remote s' hnext hnone ih =>
      have hjoin : (it.join place).next s = (it.join place).next s' :=
        joinNext_of_dropped hnext hnone
      rw [joinNext_of_dropped (next_silent_of_passes hnext rfl) hnone, ih]
      simp only [silent, silentNext, hjoin]

/-- A pull that begins with a new remote row, of a silenced iterator. -/
theorem crossPull_silent (s : σ) : it.silent.crossPull inputs (false, s) =
    if passes (it.crossPull inputs s).1 = true then ((it.crossPull inputs s).1,
      ((it.crossPull inputs s).2.1, (false, (it.crossPull inputs s).2.2)))
    else (none, (none, (true, (it.crossPull inputs s).2.2))) := by
  fun_induction it.crossPull inputs s with
  | case1 s s' hnext => exact crossPull_of_none (next_silent_of_stops hnext rfl)
  | case2 s e s' hnext =>
    cases hmalformed : e.isMalformed with
    | true =>
      rw [crossPull_of_error (next_silent_of_passes hnext hmalformed)]
      simp [passes, hmalformed]
    | false =>
      rw [crossPull_of_none (next_silent_of_stops hnext hmalformed)]
      simp [passes, hmalformed]
  | case3 s remote s' hnext input rest hinputs =>
    subst hinputs
    exact crossPull_of_cons (next_silent_of_passes hnext rfl)
  | case4 s remote s' hnext hinputs ih =>
    subst hinputs
    rw [crossPull_of_nil (next_silent_of_passes hnext rfl), ih]

/-- A pull that gives no pair leaves no inputs to pair. -/
theorem pending_of_stops {s : σ} (h : passes (it.crossPull inputs s).1 = false) :
    (it.crossPull inputs s).2.1 = none := by
  fun_induction it.crossPull inputs s with
  | case1 => rfl
  | case2 => rfl
  | case3 => cases h
  | case4 s remote s' hnext hinputs ih =>
    subst hinputs
    exact ih h

/-- The states of a product of silenced rows and of a silenced product have the same parts. A
product that has ended has no remote row at hand. -/
def CrossStates (x : Option (Row × List Row) × (Bool × σ))
    (y : Bool × (Option (Row × List Row) × σ)) : Prop :=
  x = (y.2.1, (y.1, y.2.2)) ∧ (y.1 = true → y.2.1 = none)

theorem crossStates_crossPull (s : σ) :
    (it.silent.crossPull inputs (false, s)).1 =
      ((it.cross inputs).silent.next (false, (none, s))).1 ∧
    CrossStates (it.silent.crossPull inputs (false, s)).2
      ((it.cross inputs).silent.next (false, (none, s))).2 := by
  have hnext : (it.cross inputs).next (none, s) = it.crossPull inputs s := rfl
  rw [crossPull_silent]
  cases hpass : passes (it.crossPull inputs s).1 with
  | true =>
    rw [if_pos rfl, next_silent_of_passes hnext hpass]
    exact ⟨rfl, rfl, fun h => nomatch h⟩
  | false =>
    rw [if_neg Bool.false_ne_true, next_silent_of_stops hnext hpass]
    have hpending := it.pending_of_stops inputs hpass
    exact ⟨rfl, by rw [hpending], fun _ => hpending⟩

/-- Rows may be silenced before they are paired with inputs or after.

**Proof sketch.** The states correspond as `CrossStates` says. While the remote row at hand has
inputs left, neither product reads on; otherwise both begin with the next remote row. -/
theorem pull_silent_cross (n : Nat) (pending : Option (Row × List Row)) (s : σ) :
    (it.silent.cross inputs).pull n (pending, (false, s)) =
      (it.cross inputs).silent.pull n (false, (pending, s)) := by
  have hstart : CrossStates (pending, (false, s)) (false, (pending, s)) :=
    ⟨rfl, fun h => nomatch h⟩
  refine pull_eq_of_simulation CrossStates ?_ hstart n
  rintro _ ⟨ended, pending, s⟩ ⟨rfl, hended⟩
  cases ended with
  | true =>
    obtain rfl : pending = none := hended rfl
    have hstill : (it.silent.cross inputs).next (none, (true, s)) = (none, (none, (true, s))) :=
      crossPull_of_none rfl
    rw [hstill]
    exact ⟨rfl, rfl, fun _ => rfl⟩
  | false =>
    rcases pending with _ | ⟨remote, _ | ⟨input, rest⟩⟩
    · exact it.crossStates_crossPull inputs s
    · exact it.crossStates_crossPull inputs s
    · exact ⟨rfl, rfl, fun h => nomatch h⟩

theorem pull_congr {a b : RowIterator σ} (h : ∀ s, a.next s = b.next s) (n : Nat) (s : σ) :
    a.pull n s = b.pull n s := by
  refine pull_eq_of_simulation Eq ?_ rfl n
  rintro s _ rfl
  exact ⟨congrArg Prod.fst (h s), congrArg Prod.snd (h s)⟩

end Layers

/-! ## Main result -/

/-- **A silenced iterator.** Whatever the inner iterator gives, also if it goes on after an error or
after giving nothing, a silenced one gives the same up to the first pull that is neither a row nor a
malformed query, and nothing from this pull on. Until then it reads along; this pull is the last
that it makes from the inner iterator, however often it is pulled. An iterator gives nothing at some
time; of a sequence that never does, the same holds for as many pulls as it is played. Silencing
twice gives the same, pull by pull, as silencing once. Rows that are extended by an input row,
paired with all input rows, or joined with the one that they name, may be silenced before that or
after.

**Proof sketch.** The first pull that must not pass ends the silenced iterator
(`after_silent_of_stops`). The remaining laws hold since the states of both iterators have the same
parts at every pull (`pull_eq_of_simulation`): in the same order (`next_silent_map`,
`next_silent_join`), or in another one for pairs (`CrossStates`). -/
theorem silenced_pulls (it : RowIterator σ) (s : σ) :
    (∀ n, it.silent.pull n (false, s) =
      if ∀ k ≤ n, passes (it.pull k s) = true then it.pull n s else none) ∧
    (∀ n, (∀ k < n, passes (it.pull k s) = true) →
      it.counting.silent.after n (false, (s, 0)) = (false, (it.after n s, n))) ∧
    (∀ n k, (∀ j < k, passes (it.pull j s) = true) → passes (it.pull k s) = false → k < n →
      it.counting.silent.after n (false, (s, 0)) = (true, (it.after (k + 1) s, k + 1))) ∧
    (∀ (f : Nat → Option Item) (length n : Nat), n < length →
      (played f length).silent.pull n (false, 0) =
        if ∀ k ≤ n, passes (f k) = true then f n else none) ∧
    (∀ n, it.silent.silent.pull n (false, (false, s)) = it.silent.pull n (false, s)) ∧
    (∀ (input : Row) (n : Nat), (it.silent.map input.merge).pull n (false, s) =
      (it.map input.merge).silent.pull n (false, s)) ∧
    (∀ inputs n, (it.silent.cross inputs).pull n (none, (false, s)) =
      (it.cross inputs).silent.pull n (false, (none, s))) ∧
    ∀ inputs index n, (it.silent.join (joinNamed inputs index)).pull n (false, s) =
      (it.join (joinNamed inputs index)).silent.pull n (false, s) := by
  refine ⟨fun n => it.pull_silent_eq n s, fun n hpass => ?_, fun n k hbefore hstops hk => ?_,
    fun f length n hn => ?_, fun n => it.pull_silent_silent n s,
    fun input n => pull_congr (it.next_silent_map input.merge) n _,
    fun inputs n => it.pull_silent_cross inputs n none s,
    fun inputs index n => pull_congr (it.next_silent_join (joinNamed inputs index)) n _⟩
  · rw [after_silent_of_passes fun k hk => (it.pull_counting k s 0).symm ▸ hpass k hk,
      after_counting, Nat.zero_add]
  · rw [after_silent_of_stops (fun j hj => (it.pull_counting j s 0).symm ▸ hbefore j hj)
      ((it.pull_counting k s 0).symm ▸ hstops) hk, after_counting, Nat.zero_add]
  · have hpull : ∀ k ≤ n, (played f length).pull k 0 = f k := fun k hk =>
      pull_played (Nat.lt_of_le_of_lt hk hn)
    have hpass : (∀ k ≤ n, passes ((played f length).pull k 0) = true) ↔
        ∀ k ≤ n, passes (f k) = true :=
      forall_congr' fun k => forall_congr' fun hk => by rw [hpull k hk]
    rw [pull_silent_eq, hpull n (Nat.le_refl n)]
    simp only [hpass]

/-- A sequence that goes on after a malformed query, after a lost connection, and after giving
nothing. -/
def resuming (n : Nat) : Option Item :=
  ([some (.ok .empty), some (.error (.malformedQuery "brace")), some (.error (.connection "lost")),
    some (.ok .empty), none, some (.ok .empty)][n]?).join

/-- Silenced, it gives the row and the malformed query, and is pulled three times in all. -/
theorem resuming_silenced :
    (∀ k < 2, passes ((played resuming 6).pull k 0) = true) ∧
    (played resuming 6).counting.silent.after 2 (false, (0, 0)) =
      (false, ((played resuming 6).after 2 0, 2)) ∧
    passes ((played resuming 6).pull 2 0) = false ∧
    (played resuming 6).counting.silent.after 6 (false, (0, 0)) =
      (true, ((played resuming 6).after 3 0, 3)) ∧
    (played resuming 6).silent.pull 1 (false, 0) = some (.error (.malformedQuery "brace")) := by
  obtain ⟨-, hreads, hends, hpulls, -⟩ := silenced_pulls (played resuming 6) 0
  have hpass : ∀ k < 2, passes ((played resuming 6).pull k 0) = true := by decide
  have hstops : passes ((played resuming 6).pull 2 0) = false := by decide
  exact ⟨hpass, hreads 2 hpass, hstops, hends 6 2 hpass hstops (by decide),
    (hpulls resuming 6 1 (by decide)).trans (if_pos (by decide))⟩

end RowIterator

end ServiceClause
