import Mathlib.Data.List.Nodup
import ServiceClause.Json.Decode
import ServiceClause.Proofs.Json.RoundTrip

/-!
# Objects with members left out

Members may be left out of an object. A record is then read from it with the same fields, less those
that are left out, and a field with a default gets its default.

## Main definitions

* `ServiceClause.Json.members` — an object, given the texts of its keys.
* `ServiceClause.Json.omitting` — an object without some of its members.
* `ServiceClause.Json.alter` — an object with the value of a member changed.

## Main statements

* `ServiceClause.Json.fields?_omitting` — the fields that are left.
* `ServiceClause.Json.default?_omitted` — a field is read, or has its default.
-/

set_option autoImplicit false

namespace ServiceClause.Json

/-- The object with some members. -/
def members (l : List (String × Json)) : Json := .object (l.map fun m => (some m.1, m.2))

/-- An object without the members of some keys. -/
def omitting (keys : List String) : Json → Json
  | .object l => .object (l.filter fun m => m.1.all (· ∉ keys))
  | v => v

/-- An object with the value of one of its members changed. -/
def alter (key : String) (f : Json → Json) : Json → Json
  | .object l => .object (l.map fun m => if m.1 = some key then (m.1, f m.2) else m)
  | v => v

section

variable {l : List (String × Json)} {keys : List String}

theorem omitting_members (keys : List String) (l : List (String × Json)) :
    (members l).omitting keys = members (l.filter fun m => m.1 ∉ keys) := by
  rw [members, omitting, List.filter_map]
  rfl

theorem omitting_nil (l : List (String × Json)) : (members l).omitting [] = members l := by
  rw [omitting_members]
  simp

/-! ## Fields -/

/-- The fields of a record that admits other members are the members with their names. -/
theorem fields?_members {shape : RecordShape} (hshape : shape.admitsOthers = true)
    (hl : (l.map Prod.fst).Nodup) :
    shape.fields? (members l) = some (shape.names.map fun n => l.lookup n) := by
  have honce : shape.names.any (1 < (l.map Prod.fst).count ·) = false := by
    rw [List.any_eq_false]
    intro n _
    have hcount := List.nodup_iff_count_le_one.1 hl n
    rw [decide_eq_true_iff]
    omega
  show (asMembers? (members l)).bind _ = _
  rw [members, asMembers?_object, Option.bind_some]
  simp only [honce, hshape]
  rfl

theorem lookup_filter_notMem (n : String) :
    (l.filter fun m => m.1 ∉ keys).lookup n = if n ∈ keys then none else l.lookup n := by
  induction l with
  | nil => simp
  | cons m l ih =>
    by_cases hm : m.1 ∈ keys
    · rw [List.filter_cons_of_neg (by simpa using hm), ih]
      by_cases hn : n ∈ keys
      · rw [if_pos hn, if_pos hn]
      · have hne : n ≠ m.1 := fun heq => hn (heq ▸ hm)
        rw [if_neg hn, if_neg hn, List.lookup_cons, beq_eq_false_iff_ne.2 hne]
    · rw [List.filter_cons_of_pos (by simpa using hm), List.lookup_cons, List.lookup_cons, ih]
      by_cases hn : n = m.1
      · subst hn
        simp [hm]
      · rw [beq_eq_false_iff_ne.2 hn]

/-- The fields of a record from which some members have been left out. -/
theorem fields?_omitting {shape : RecordShape} (hshape : shape.admitsOthers = true)
    (hl : (l.map Prod.fst).Nodup) :
    shape.fields? ((members l).omitting keys) =
      some (shape.names.map fun n => if n ∈ keys then none else l.lookup n) := by
  have hkept : ((l.filter fun m => m.1 ∉ keys).map Prod.fst).Nodup :=
    hl.sublist (List.filter_sublist.map _)
  rw [omitting_members, fields?_members hshape hkept]
  congr 1
  exact List.map_congr_left fun n _ => lookup_filter_notMem n

/-- A field is read unless it is left out, and then it has its default. -/
theorem default?_omitted {α : Type} {decode : Json → Option α} {v : Json} {a : α}
    (h : decode v = some a) (d : α) (n : String) :
    default? decode d (if n ∈ keys then none else some v) = some (if n ∈ keys then d else a) := by
  by_cases hn : n ∈ keys
  · rw [if_pos hn, if_pos hn, default?]
  · rw [if_neg hn, if_neg hn, default?, h]

end

/-! ## Written objects -/

theorem textual_members {l : List (String × Json)} (h : ∀ m ∈ l, m.2.Textual) :
    (members l).Textual :=
  .object h

theorem textual_omitting {l : List (String × Json)} (h : ∀ m ∈ l, m.2.Textual)
    (keys : List String) : ((members l).omitting keys).Textual := by
  rw [omitting_members]
  exact textual_members fun m hm => h m (List.mem_filter.1 hm).1

end ServiceClause.Json
