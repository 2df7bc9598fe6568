import Mathlib.Tactic.SplitIfs

/-!
# The order of bytes

Texts are ordered by the code points of their characters. The bytes in which a text is written are
ordered in the same way: the first byte of a character tells how many there are, more for greater
code points, and all of them hold its bits from the highest to the lowest.

## Main definitions

* `ServiceClause.utf8Bytes` — the bytes of a text.

## Main statements

* `ServiceClause.lt_iff_utf8Bytes_lt` — the order of texts is the order of their bytes.
-/

set_option autoImplicit false

namespace ServiceClause

/-- The bytes that a text is written in. -/
def utf8Bytes (s : String) : List UInt8 := s.toUTF8.data.toList

theorem utf8Bytes_eq (s : String) : utf8Bytes s = s.toList.flatMap String.utf8EncodeChar := by
  rw [utf8Bytes, String.toUTF8, ← String.utf8Encode_toList, List.utf8Encode]
  exact List.data_toByteArray ▸ List.toList_toArray

/-- A smaller character is written in smaller bytes, whatever comes after it.

**Proof sketch.** Both characters take one to four bytes. If they take equally many, the first
difference of their bits is in the first bytes that differ, and otherwise the first bytes differ. -/
theorem utf8EncodeChar_append_lt {c d : Char} (h : c < d) (r s : List UInt8) :
    String.utf8EncodeChar c ++ r < String.utf8EncodeChar d ++ s := by
  have hlt : c.val.toNat < d.val.toNat := UInt32.lt_iff_toNat_lt.1 h
  have hd : d.val.toNat < 0x110000 := by
    rcases d.valid with hvalid | hvalid <;> omega
  have hsecond : ∀ n, n / 4096 = n / 64 / 64 := fun n => by omega
  have hfirst : ∀ n, n / 262144 = n / 64 / 64 / 64 := fun n => by omega
  simp only [String.utf8EncodeChar, hsecond, hfirst]
  generalize c.val.toNat = v at *
  generalize d.val.toNat = w at *
  split_ifs <;>
    simp only [List.cons_append, List.nil_append, List.cons_lt_cons_iff, UInt8.lt_iff_toNat_lt,
      ← UInt8.toNat_inj, UInt8.toNat_ofNat'] <;>
    omega

theorem utf8EncodeChar_ne_nil (c : Char) : String.utf8EncodeChar c ≠ [] := by
  simp only [String.utf8EncodeChar]
  split_ifs <;> simp

/-- A smaller text is written in smaller bytes. -/
theorem flatMap_utf8EncodeChar_lt {cs ds : List Char} (h : cs < ds) :
    cs.flatMap String.utf8EncodeChar < ds.flatMap String.utf8EncodeChar := by
  induction cs generalizing ds with
  | nil =>
    cases ds with
    | nil => exact absurd h (List.lt_irrefl _)
    | cons d ds =>
      obtain ⟨x, bytes, hbytes⟩ := List.exists_cons_of_ne_nil (utf8EncodeChar_ne_nil d)
      rw [List.flatMap_cons, hbytes]
      exact List.nil_lt_cons x _
  | cons c cs ih =>
    cases ds with
    | nil => exact absurd h (List.not_lt_nil _)
    | cons d ds =>
      rw [List.flatMap_cons, List.flatMap_cons]
      rcases List.cons_lt_cons_iff.1 h with hcd | ⟨rfl, hrest⟩
      · exact utf8EncodeChar_append_lt hcd _ _
      · exact List.append_left_lt (ih hrest)

/-- **Texts are ordered by their bytes.** One text comes before another one if and only if its bytes
do, where bytes are compared one by one and a beginning comes before the whole.

**Proof sketch.** Smaller texts have smaller bytes (`flatMap_utf8EncodeChar_lt`). Of two different
texts one is smaller, and it is the one whose bytes are, since bytes are not smaller either way. -/
theorem lt_iff_utf8Bytes_lt {s t : String} : s < t ↔ utf8Bytes s < utf8Bytes t := by
  rw [utf8Bytes_eq, utf8Bytes_eq, String.lt_iff]
  refine ⟨flatMap_utf8EncodeChar_lt, fun h => ?_⟩
  by_cases hst : s.toList < t.toList
  · exact hst
  · by_cases hts : t.toList < s.toList
    · exact absurd (flatMap_utf8EncodeChar_lt hts) (List.lt_asymm h)
    · rw [List.le_antisymm (List.not_lt.1 hts) (List.not_lt.1 hst)] at h
      exact absurd h (List.lt_irrefl _)

end ServiceClause
