import ServiceClause.RowSequence
import ServiceClause.Proofs.Rows

/-!
# The row index

Inline data gives every row of a batch its number in decimal digits, and an endpoint gives the number
back as a literal. Reading the digits gives the number, so a remote row that bears the number of an
input row is joined to that row.

## Main definitions

* `ServiceClause.Row.Bears` — a row that bears a number.

## Main statements

* `ServiceClause.natural?_toString` — the digits of a number are read as the number.
* `ServiceClause.joinNamed_of_bears` — a row is joined to the one whose number it bears.
-/

set_option autoImplicit false

namespace ServiceClause

/-! ## Reading digits -/

theorem trimBlanks_of_no_blank {cs : List Char} (h : ∀ c ∈ cs, isBlank c = false) :
    trimBlanks cs = cs := by
  have hdrop : ∀ l : List Char, (∀ c ∈ l, isBlank c = false) → l.dropWhile isBlank = l := by
    intro l hl
    cases l with
    | nil => rfl
    | cons c l => rw [List.dropWhile_cons_of_neg (by simp [hl c List.mem_cons_self])]
  unfold trimBlanks
  rw [hdrop cs h, hdrop cs.reverse fun c hc => h c (List.mem_reverse.1 hc), List.reverse_reverse]

theorem isBlank_of_isDigit {c : Char} (h : c.isDigit = true) : isBlank c = false := by
  rw [Char.isDigit_iff_toNat] at h
  have hzero : '0'.toNat = 48 := rfl
  have hnine : '9'.toNat = 57 := rfl
  rw [hzero, hnine] at h
  simp only [isBlank, Bool.or_eq_false_iff, Bool.and_eq_false_iff, decide_eq_false_iff_not,
    beq_eq_false_iff_ne]
  omega

/-- A run of digits is read as the number that it denotes. -/
theorem natural?_of_digits {cs : List Char} (hne : cs ≠ []) (h : ∀ c ∈ cs, c.isDigit = true) :
    natural? cs = some (decimalValue cs) := by
  have hdecimal : decimal? cs = some (decimalValue cs) := if_pos ⟨hne, List.all_eq_true.2 h⟩
  unfold natural?
  split
  · next rest =>
    have hplus := h '+' List.mem_cons_self
    simp at hplus
  · exact hdecimal

/-- The decimal digits of a number, with white space around them or not, are read as the number. -/
theorem natural?_toString (i : Nat) : natural? (trimBlanks (toString i).toList) = some i := by
  have hdigits : (toString i).toList = Nat.toDigits 10 i := by
    rw [Nat.toString_eq_repr, Nat.toList_repr]
  have hdigit : ∀ c ∈ Nat.toDigits 10 i, c.isDigit = true := fun c hc =>
    Nat.isDigit_of_mem_toDigits (by decide) (by decide) hc
  have hvalue : decimalValue (Nat.toDigits 10 i) = i := Nat.ofDigitChars_ten_toDigits
  rw [hdigits, trimBlanks_of_no_blank fun c hc => isBlank_of_isDigit (hdigit c hc),
    natural?_of_digits Nat.toDigits_ne_nil hdigit, hvalue]

/-! ## Rows that bear a number -/

/-- Whether a row bears the number `i`: the row index is a literal with its decimal digits. -/
def Row.Bears (row : Row) (rowIndex : Name) (i : Nat) : Prop :=
  ∃ l : Literal, row.get? rowIndex = some (.literal l) ∧ l.lexical = toString i

/-- A remote row that bears the number of an input row is joined to that row. -/
theorem joinNamed_of_bears {inputs : List Row} {rowIndex : Name} {remote input : Row} {i : Nat}
    (hbears : remote.Bears rowIndex i) (hinput : inputs[i]? = some input) :
    joinNamed inputs rowIndex remote = some (input.merge (remote.erase rowIndex)) := by
  obtain ⟨l, hget, hlexical⟩ := hbears
  have hnamed : namedRow inputs rowIndex remote = some input := by
    unfold namedRow
    rw [hget]
    show (natural? (trimBlanks l.lexical.toList)).bind (fun i => inputs[i]?) = some input
    rw [hlexical, natural?_toString]
    exact hinput
  rw [joinNamed, hnamed]
  rfl

/-- A row that is joined by the row index extends an input row by the other bindings. -/
theorem exists_of_joinNamed {inputs : List Row} {rowIndex : Name} {remote row : Row}
    (h : joinNamed inputs rowIndex remote = some row) :
    ∃ input ∈ inputs, row = input.merge (remote.erase rowIndex) := by
  obtain ⟨input, hinput, rfl⟩ := Option.map_eq_some_iff.1 h
  unfold namedRow at hinput
  obtain ⟨value, _, hinput⟩ := Option.bind_eq_some_iff.1 hinput
  obtain ⟨i, _, hinput⟩ := Option.bind_eq_some_iff.1 hinput
  exact ⟨input, List.mem_of_getElem? hinput, rfl⟩

end ServiceClause
