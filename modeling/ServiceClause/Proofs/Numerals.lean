import Mathlib.Data.List.Induction
import Mathlib.Data.List.TakeWhile
import Mathlib.Data.Nat.Digits.Defs
import ServiceClause.Proofs.Query.Completeness
import ServiceClause.Proofs.RowIndex

/-!
# Numerals

A text denotes a number if it is made of decimal digits, perhaps behind a plus sign and with white
space at either end. A row index is read in this way. Numbers are read without a bound here; a
reader that gives up at a bound reads the same numbers below it.

## Main definitions

* `ServiceClause.Denotes` — a text that denotes a number.
* `ServiceClause.naturalBelow?` — a reader of numbers that gives up at a bound.

## Main statements

* `ServiceClause.natural?_trimBlanks_eq_some_iff` — what is read as a number.
* `ServiceClause.denotes_padded_iff` — the digits of a number denote it, with white space or not.
* `ServiceClause.naturalBelow?_eq` — which numbers a reader with a bound reads.
-/

set_option autoImplicit false

namespace ServiceClause

/-- Whether a text denotes the number `i`: one or more digits, the last of which counts the ones,
perhaps behind a plus sign, and perhaps between white space. -/
def Denotes (cs : List Char) (i : Nat) : Prop :=
  ∃ before sign digits after, cs = before ++ ((sign ++ digits) ++ after) ∧
    (∀ c ∈ before, isBlank c = true) ∧ (∀ c ∈ after, isBlank c = true) ∧
    (sign = [] ∨ sign = ['+']) ∧ digits ≠ [] ∧ (∀ c ∈ digits, c.isDigit = true) ∧
    Nat.ofDigits 10 (digits.reverse.map digitValue) = i

/-! ## Digits -/

theorem decimalValue_concat (cs : List Char) (c : Char) :
    decimalValue (cs ++ [c]) = 10 * decimalValue cs + digitValue c := by
  simp [decimalValue, List.foldl_append]

/-- The value of digits, read from the first one on, is the number that they denote. -/
theorem decimalValue_eq_ofDigits (cs : List Char) :
    decimalValue cs = Nat.ofDigits 10 (cs.reverse.map digitValue) := by
  induction cs using List.reverseRecOn with
  | nil => rfl
  | append_singleton cs c ih =>
    rw [decimalValue_concat, List.reverse_append, List.reverse_singleton, List.singleton_append,
      List.map_cons, Nat.ofDigits_cons, ← ih, Nat.add_comm]

theorem decimal?_eq_some_iff {cs : List Char} {i : Nat} :
    decimal? cs = some i ↔ cs ≠ [] ∧ (∀ c ∈ cs, c.isDigit = true) ∧ decimalValue cs = i := by
  unfold decimal?
  simp only [List.all_eq_true, Option.ite_none_right_eq_some, Option.some.injEq, and_assoc]

theorem natural?_eq_some_iff {cs : List Char} {i : Nat} :
    natural? cs = some i ↔ ∃ sign digits, cs = sign ++ digits ∧ (sign = [] ∨ sign = ['+']) ∧
      decimal? digits = some i := by
  constructor
  · intro h
    unfold natural? at h
    split at h
    · next digits => exact ⟨['+'], digits, rfl, .inr rfl, h⟩
    · exact ⟨[], _, rfl, .inl rfl, h⟩
  · rintro ⟨sign, digits, rfl, rfl | rfl, h⟩
    · obtain ⟨hne, hdigits, rfl⟩ := decimal?_eq_some_iff.1 h
      exact natural?_of_digits hne hdigits
    · exact h

/-! ## White space -/

/-- Trimming takes away the white space at both ends. -/
theorem trimBlanks_append {before cs after : List Char} (hbefore : ∀ c ∈ before, isBlank c = true)
    (hcs : ∀ c ∈ cs, isBlank c = false) (hafter : ∀ c ∈ after, isBlank c = true) :
    trimBlanks (before ++ (cs ++ after)) = cs := by
  rw [trimBlanks, List.dropWhile_append_of_pos hbefore]
  cases cs with
  | nil =>
    have hnil : after.dropWhile isBlank = [] := List.dropWhile_eq_nil_iff.2 hafter
    rw [List.nil_append, hnil]
    rfl
  | cons c cs =>
    have hstart : (c :: cs ++ after).dropWhile isBlank = c :: cs ++ after := by
      rw [List.cons_append, List.dropWhile_cons_of_neg (by simp [hcs c List.mem_cons_self])]
    have hend := trimBlanks_of_no_blank hcs
    rw [trimBlanks, List.dropWhile_cons_of_neg (by simp [hcs c List.mem_cons_self])] at hend
    rw [hstart, List.reverse_append,
      List.dropWhile_append_of_pos fun c hc => hafter c (List.mem_reverse.1 hc), hend]

/-- **What is read as a number.** A text is read as the number that it denotes.

**Proof sketch.** What is left of a text when the white space at its ends is taken away is a sign
and digits, none of which is white space. -/
theorem natural?_trimBlanks_eq_some_iff {cs : List Char} {i : Nat} :
    natural? (trimBlanks cs) = some i ↔ Denotes cs i := by
  constructor
  · intro h
    obtain ⟨sign, digits, htrim, hsign, hdecimal⟩ := natural?_eq_some_iff.1 h
    obtain ⟨hne, hdigits, rfl⟩ := decimal?_eq_some_iff.1 hdecimal
    obtain ⟨before, after, hcs, hbefore, hafter⟩ := exists_blanks cs
    rw [htrim] at hcs
    exact ⟨before, sign, digits, after, hcs, hbefore, hafter, hsign, hne, hdigits,
      (decimalValue_eq_ofDigits digits).symm⟩
  · rintro ⟨before, sign, digits, after, rfl, hbefore, hafter, hsign, hne, hdigits, rfl⟩
    have hblank : ∀ c ∈ sign ++ digits, isBlank c = false := by
      intro c hc
      rcases List.mem_append.1 hc with hc | hc
      · rcases hsign with rfl | rfl
        · cases hc
        · rw [List.mem_singleton.1 hc]
          rfl
      · exact isBlank_of_isDigit (hdigits c hc)
    rw [trimBlanks_append hbefore hblank hafter]
    exact natural?_eq_some_iff.2 ⟨sign, digits, rfl, hsign,
      decimal?_eq_some_iff.2 ⟨hne, hdigits, decimalValue_eq_ofDigits digits⟩⟩

/-- A text denotes one number at most. -/
theorem Denotes.unique {cs : List Char} {i j : Nat} (hi : Denotes cs i) (hj : Denotes cs j) :
    i = j :=
  Option.some.inj ((natural?_trimBlanks_eq_some_iff.2 hi).symm.trans
    (natural?_trimBlanks_eq_some_iff.2 hj))

/-- The digits of a number denote it and nothing else, with white space around them or not. -/
theorem denotes_padded_iff {before after : List Char} (hbefore : ∀ c ∈ before, isBlank c = true)
    (hafter : ∀ c ∈ after, isBlank c = true) {i j : Nat} :
    Denotes (before ++ ((toString i).toList ++ after)) j ↔ j = i := by
  have hdigits : ∀ c ∈ (toString i).toList, isBlank c = false := by
    intro c hc
    rw [Nat.toString_eq_repr, Nat.toList_repr] at hc
    exact isBlank_of_isDigit (Nat.isDigit_of_mem_toDigits (by decide) (by decide) hc)
  have hread := natural?_toString i
  rw [trimBlanks_of_no_blank hdigits] at hread
  rw [← natural?_trimBlanks_eq_some_iff, trimBlanks_append hbefore hdigits hafter, hread,
    Option.some.injEq, eq_comm]

/-! ## Numbers below a bound -/

/-- Adds a digit to a number unless a step of the calculation reaches the bound. -/
def addDigitBelow? (bound n : Nat) (c : Char) : Option Nat :=
  if 10 * n < bound ∧ 10 * n + digitValue c < bound then some (10 * n + digitValue c) else none

/-- The number that one or more digits denote, calculated with numbers below a bound. -/
def decimalBelow? (bound : Nat) (cs : List Char) : Option Nat :=
  if cs ≠ [] ∧ cs.all Char.isDigit then cs.foldlM (addDigitBelow? bound) 0 else none

/-- The number that one or more digits denote, perhaps behind a plus sign, calculated with numbers
below a bound. -/
def naturalBelow? (bound : Nat) : List Char → Option Nat
  | '+' :: cs => decimalBelow? bound cs
  | cs => decimalBelow? bound cs

/-- A calculation that has reached the bound does not come back. -/
theorem foldlM_addDigitBelow? {bound : Nat} (hbound : 0 < bound) (cs : List Char) :
    cs.foldlM (addDigitBelow? bound) 0 =
      if decimalValue cs < bound then some (decimalValue cs) else none := by
  induction cs using List.reverseRecOn with
  | nil => exact (if_pos hbound).symm
  | append_singleton cs c ih =>
    rw [List.foldlM_append, ih, decimalValue_concat]
    split
    · show (List.foldlM (addDigitBelow? bound) (decimalValue cs) [c]) = _
      simp only [List.foldlM_cons, List.foldlM_nil, addDigitBelow?, bind_pure]
      split <;> split <;> first | rfl | omega
    · next hreached =>
      rw [if_neg (by omega)]
      rfl

/-- A reader with a bound reads the numbers below it. -/
theorem naturalBelow?_eq {bound : Nat} (hbound : 0 < bound) (cs : List Char) :
    naturalBelow? bound cs = (natural? cs).filter (· < bound) := by
  have hdecimal : ∀ digits, decimalBelow? bound digits = (decimal? digits).filter (· < bound) := by
    intro digits
    unfold decimalBelow? decimal?
    split
    · rw [foldlM_addDigitBelow? hbound, Option.filter_some]
      simp
    · rfl
  by_cases hsign : ∃ digits, cs = '+' :: digits
  · obtain ⟨digits, rfl⟩ := hsign
    exact hdecimal digits
  · have hbelow : naturalBelow? bound cs = decimalBelow? bound cs := by
      unfold naturalBelow?
      split
      · exact absurd ⟨_, rfl⟩ hsign
      · rfl
    have hnatural : natural? cs = decimal? cs := by
      unfold natural?
      split
      · exact absurd ⟨_, rfl⟩ hsign
      · rfl
    rw [hbelow, hnatural, hdecimal]

end ServiceClause
