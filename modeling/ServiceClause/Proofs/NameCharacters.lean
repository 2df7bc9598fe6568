import Mathlib.Data.List.Chain
import ServiceClause.Config

/-!
# Characters of names

The name of the row index is made of alphanumeric characters and underscores, the name of a variable
in a query of the characters of words. Of the former all are among the latter but for two kinds: the
numerals that are neither digits nor alphabetic, and what Unicode took in last.

## Main definitions

* `ServiceClause.isNameCharacter` — the characters that the row index may be named with.

## Main statements

* `ServiceClause.isWord_iff_of_isNameCharacter` — which of them belong to words.
* `ServiceClause.Config.isNameCharacter_of_validate` — acceptable settings name the row index with
  them.
-/

set_option autoImplicit false

namespace ServiceClause

variable {c : Char}

/-! ## Tables -/

namespace CodeRange

/-- Whether a range ends before another one that is not empty. -/
def Below (r s : CodeRange) : Prop := r.last < s.first ∧ s.first ≤ s.last

instance (r s : CodeRange) : Decidable (r.Below s) :=
  inferInstanceAs (Decidable (r.last < s.first ∧ s.first ≤ s.last))

instance : Trans Below Below Below where
  trans h h' := ⟨Nat.lt_trans (Nat.lt_of_lt_of_le h.1 h.2) h'.1, h'.2⟩

/-- The ranges of two tables in the order of their first code points. -/
def together : List CodeRange → List CodeRange → List CodeRange
  | [], other => other
  | table, [] => table
  | r :: table, s :: other =>
    if r.first ≤ s.first then r :: together table (s :: other) else s :: together (r :: table) other
termination_by table other => table.length + other.length

theorem together_perm (table other : List CodeRange) :
    (together table other).Perm (table ++ other) := by
  fun_induction together table other with
  | case1 other => exact .refl _
  | case2 table => rw [List.append_nil]
  | case3 r table s other hle ih => exact ih.cons r
  | case4 r table s other hle ih => exact (ih.cons s).trans List.perm_middle.symm

/-- Tables whose ranges can be put in one order have no character in common. -/
theorem covers_eq_false {table other : List CodeRange} (h : (together table other).IsChain Below)
    (hc : covers table c = true) : covers other c = false := by
  have hapart : (table ++ other).Pairwise fun r s => r.last < s.first ∨ s.last < r.first :=
    ((together_perm table other).pairwise_iff fun {r s} h => h.symm).1
      (h.pairwise.imp fun h => .inl h.1)
  rw [← Bool.not_eq_true, covers_iff]
  rintro ⟨s, hs, hfirst, hlast⟩
  obtain ⟨r, hr, hfirst', hlast'⟩ := covers_iff.1 hc
  have hrs := (List.pairwise_append.1 hapart).2.2 r hr s hs
  omega

end CodeRange

/-- A numeral that is neither a digit nor alphabetic is far from ASCII. -/
theorem toNat_of_isOtherNumeral (h : isOtherNumeral c = true) : 0x80 ≤ c.toNat := by
  have hfirst : ∀ r ∈ otherNumeralTable, 0x80 ≤ r.first := by decide +kernel
  obtain ⟨r, hr, hc, -⟩ := CodeRange.covers_iff.1 h
  exact Nat.le_trans (hfirst r hr) hc

/-- Such a numeral does not belong to a word. -/
theorem isWord_of_isOtherNumeral (h : isOtherNumeral c = true) : isWord c = false := by
  have hplace := Nat.not_lt.2 (toNat_of_isOtherNumeral h)
  have halphabetic : isAlphabetic c = false := by
    rw [isAlphabetic, if_neg hplace]
    exact CodeRange.covers_eq_false (by decide +kernel) h
  have hdigit : isDecimalDigit c = false := by
    rw [isDecimalDigit, if_neg hplace]
    exact CodeRange.covers_eq_false (by decide +kernel) h
  have hmark : isMark c = false := CodeRange.covers_eq_false (by decide +kernel) h
  have hconnector : isConnector c = false := by
    rw [isConnector, CodeRange.covers_eq_false (by decide +kernel) h, Bool.or_false,
      beq_eq_false_iff_ne]
    rintro rfl
    exact hplace (by decide)
  have hjoiner : isJoiner c = false := by
    have hcovers : CodeRange.covers [⟨0x200c, 0x200d⟩] c = false :=
      CodeRange.covers_eq_false (by decide +kernel) h
    simp [CodeRange.covers, CodeRange.contains] at hcovers
    simp only [isJoiner, Bool.or_eq_false_iff, beq_eq_false_iff_ne]
    omega
  rw [isWord, halphabetic, hdigit, hmark, hconnector, hjoiner]
  rfl

/-! ## Names -/

/-- Whether the row index may be named with a character. -/
def isNameCharacter (c : Char) : Bool := isAlphanumeric c || c == '_'

/-- **The two classes of characters compared.** A character that the row index may be named with
belongs to words unless it is a numeral that is neither a digit nor alphabetic, or a character that
Unicode took in last.

**Proof sketch.** Such numerals are in none of the tables of words; all other characters are
alphabetic, digits or the underscore. -/
theorem isWord_iff_of_isNameCharacter (h : isNameCharacter c = true) : isWord c = true ↔
    isOtherNumeral c = false ∧ CodeRange.covers recentTable c = false := by
  constructor
  · intro hword
    refine ⟨?_, ?_⟩
    · rw [← Bool.not_eq_true]
      intro hnumeral
      rw [isWord_of_isOtherNumeral hnumeral] at hword
      cases hword
    · rw [isWord, Bool.and_eq_true, Bool.not_eq_true'] at hword
      exact hword.2
  · rintro ⟨hnumeral, hrecent⟩
    rw [isNameCharacter, isAlphanumeric, hnumeral, Bool.or_false] at h
    simp only [Bool.or_eq_true, beq_iff_eq] at h
    rw [isWord, hrecent]
    rcases h with (halphabetic | hdigit) | rfl
    · simp [halphabetic]
    · simp [hdigit]
    · simp [isConnector]

/-- Settings are acceptable only if the row index has a name of such characters. -/
theorem Config.isNameCharacter_of_validate {config : Config} (h : config.validate = .ok ()) :
    config.rowIndex.toList ≠ [] ∧ ∀ c ∈ config.rowIndex.toList, isNameCharacter c = true := by
  unfold validate at h
  split at h
  · cases h
  split at h
  · cases h
  split at h
  · cases h
  · next hname =>
    have hname' : isName config.rowIndex = true := by simpa using hname
    simpa [isName, isNameCharacter] using hname'

end ServiceClause
