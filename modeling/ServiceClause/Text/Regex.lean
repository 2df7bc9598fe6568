/-!
# Regular expressions

A regular expression may match several beginnings of a text. Which of them it prefers is part of its
meaning: the alternative that is named first, and as many repetitions as possible or, if they are
lazy, as few. The ways in which an expression matches are therefore a list with the preferred one in
front.

## Main definitions

* `ServiceClause.Regex` — an expression.
* `ServiceClause.Regex.lengths` — how many characters it may take, in the order of preference.
* `ServiceClause.Regex.preferred?` — how many it takes.

## Main statements

* `ServiceClause.Regex.preferred?_seq_many_of_unit`, `ServiceClause.Regex.preferred?_seq_few_of_unit` —
  repetitions and what follows them, where one repetition has only one way to match.
-/

set_option autoImplicit false

namespace ServiceClause

/-- A regular expression. -/
inductive Regex where
  /-- A character of a class. -/
  | one (accepts : Char → Bool)
  /-- One expression and then another. -/
  | seq (front back : Regex)
  /-- One of two expressions, preferably the first. -/
  | alt (preferred other : Regex)
  /-- Repetitions, as many as possible. -/
  | many (inner : Regex)
  /-- Repetitions, as few as possible. -/
  | few (inner : Regex)

namespace Regex

/-- The character `c`. -/
def char (c : Char) : Regex := one (· == c)

/-- How many characters repetitions may take, where `lengths` says how many one of them may take.
Each repetition takes at least one character. With `lazily` fewer repetitions are preferred, without
it more. -/
def repeated (lengths : List Char → List Nat) (lazily : Bool) (cs : List Char) : List Nat :=
  let further := (lengths cs).flatMap fun n =>
    if 0 < n ∧ n ≤ cs.length then (repeated lengths lazily (cs.drop n)).map (· + n) else []
  if lazily then 0 :: further else further ++ [0]
termination_by cs.length
decreasing_by simp only [List.length_drop]; omega

/-- How many characters an expression may take from the beginning of a text, the preferred number
first. -/
def lengths : Regex → List Char → List Nat
  | one _, [] => []
  | one accepts, c :: _ => if accepts c then [1] else []
  | seq front back, cs =>
    (front.lengths cs).flatMap fun n => (back.lengths (cs.drop n)).map (· + n)
  | alt preferred other, cs => preferred.lengths cs ++ other.lengths cs
  | many inner, cs => repeated inner.lengths false cs
  | few inner, cs => repeated inner.lengths true cs

/-- How many characters an expression takes from the beginning of a text, if it matches there. -/
def preferred? (r : Regex) (cs : List Char) : Option Nat := (r.lengths cs).head?

variable {a b r unit : Regex} {accepts : Char → Bool} {c : Char} {cs : List Char} {n : Nat}

theorem lengths_one_cons : (one accepts).lengths (c :: cs) = if accepts c then [1] else [] := by
  rw [lengths]

theorem lengths_one_nil : (one accepts).lengths [] = [] := by
  rw [lengths]

theorem lengths_seq_one_cons : (seq (one accepts) r).lengths (c :: cs) =
    if accepts c then (r.lengths cs).map (· + 1) else [] := by
  rw [lengths, lengths_one_cons]
  split <;> simp

theorem lengths_seq_one_nil : (seq (one accepts) r).lengths [] = [] := by
  rw [lengths, lengths_one_nil, List.flatMap_nil]

theorem preferred?_eq_none_of_lengths (h : r.lengths cs = []) : r.preferred? cs = none := by
  rw [preferred?, h, List.head?_nil]

theorem preferred?_one_cons : (one accepts).preferred? (c :: cs) =
    if accepts c then some 1 else none := by
  rw [preferred?, lengths_one_cons]
  split <;> rfl

theorem preferred?_seq_one_cons : (seq (one accepts) r).preferred? (c :: cs) =
    if accepts c then (r.preferred? cs).map (· + 1) else none := by
  rw [preferred?, lengths_seq_one_cons]
  split
  · rw [List.head?_map, preferred?]
  · rfl

/-! ## Repetitions

What repetitions and the expression after them match, decided at the first repetition. -/

theorem seq_repeated (one after : List Char → List Nat) (lazily : Bool) (cs : List Char) :
    ((repeated one lazily cs).flatMap fun n => (after (cs.drop n)).map (· + n)) =
      let further := (one cs).flatMap fun n =>
        if 0 < n ∧ n ≤ cs.length then
          ((repeated one lazily (cs.drop n)).flatMap fun m =>
            (after ((cs.drop n).drop m)).map (· + m)).map (· + n)
        else []
      if lazily then after cs ++ further else further ++ after cs := by
  have hfurther : (((one cs).flatMap fun n => if 0 < n ∧ n ≤ cs.length then
        (repeated one lazily (cs.drop n)).map (· + n) else []).flatMap fun n =>
        (after (cs.drop n)).map (· + n)) =
      (one cs).flatMap fun n => if 0 < n ∧ n ≤ cs.length then
        ((repeated one lazily (cs.drop n)).flatMap fun m =>
          (after ((cs.drop n).drop m)).map (· + m)).map (· + n) else [] := by
    rw [List.flatMap_assoc]
    congr 1
    funext n
    split
    · simp only [List.flatMap_map, List.map_flatMap, List.map_map, List.drop_drop]
      congr 1
      funext m
      rw [Nat.add_comm m n]
      congr 1
      funext k
      simp only [Function.comp_apply]
      omega
    · rfl
  have hnone : ((after (cs.drop 0)).map (· + 0)) = after cs := by
    simp
  rw [repeated]
  cases lazily
  · simp only [Bool.false_eq_true, if_false, List.flatMap_append, List.flatMap_singleton] at hfurther ⊢
    rw [hfurther, hnone]
  · simp only [if_true, List.flatMap_cons] at hfurther ⊢
    rw [hfurther, hnone]

/-- Where one repetition can only take `n` characters, as many repetitions as possible take these
first. -/
theorem preferred?_seq_many_of_unit (hunit : unit.lengths cs = [n]) (hpos : 0 < n)
    (hle : n ≤ cs.length) : (seq (many unit) r).preferred? cs =
      (((seq (many unit) r).preferred? (cs.drop n)).map (· + n)).or (r.preferred? cs) := by
  simp only [preferred?, lengths]
  rw [seq_repeated, hunit]
  simp [hpos, hle, List.head?_append]

/-- Where there is no repetition, what follows them comes at once. -/
theorem preferred?_seq_many_of_nil (hunit : unit.lengths cs = []) :
    (seq (many unit) r).preferred? cs = r.preferred? cs := by
  simp only [preferred?, lengths]
  rw [seq_repeated, hunit]
  simp

/-- As few repetitions as possible are none where what follows them matches. -/
theorem preferred?_seq_few_of_some (h : r.preferred? cs = some n) :
    (seq (few unit) r).preferred? cs = some n := by
  simp only [preferred?, lengths] at h ⊢
  rw [seq_repeated]
  simp [List.head?_append, h]

/-- Where one repetition can only take `n` characters, as few repetitions as possible take these only
if what follows does not match. -/
theorem preferred?_seq_few_of_unit (hunit : unit.lengths cs = [n]) (hpos : 0 < n)
    (hle : n ≤ cs.length) : (seq (few unit) r).preferred? cs =
      (r.preferred? cs).or (((seq (few unit) r).preferred? (cs.drop n)).map (· + n)) := by
  simp only [preferred?, lengths]
  rw [seq_repeated, hunit]
  simp [hpos, hle, List.head?_append]

theorem preferred?_seq_few_of_nil (hunit : unit.lengths cs = []) :
    (seq (few unit) r).preferred? cs = r.preferred? cs := by
  simp only [preferred?, lengths]
  rw [seq_repeated, hunit]
  simp

/-- Repetitions of a character take all characters of its class. -/
theorem preferred?_many_one (accepts : Char → Bool) (cs : List Char) :
    (many (one accepts)).preferred? cs = some (cs.takeWhile accepts).length := by
  induction cs with
  | nil =>
    rw [preferred?, lengths, repeated, lengths_one_nil]
    rfl
  | cons c cs ih =>
    rw [preferred?, lengths, repeated, lengths_one_cons]
    cases haccepts : accepts c with
    | false => simp [haccepts]
    | true =>
      rw [preferred?, lengths] at ih
      simp [haccepts, List.head?_append, ih]

end Regex

end ServiceClause
