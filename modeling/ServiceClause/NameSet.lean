/-!
# Sets of variable names

A set of names is kept as the list of its members in ascending order, so two sets with the same
members are equal and the order of the members is the order of the set.

## Main definitions

* `ServiceClause.NameSet` — a finite set of names.
* `ServiceClause.NameSet.ofList`, `insert`, `diff` — how sets arise.
-/

set_option autoImplicit false

namespace ServiceClause

/-- The name of a variable, without question mark or dollar sign. -/
abbrev Name := String

/-- A finite set of names. -/
structure NameSet where
  /-- The members in ascending order. -/
  toList : List Name
  /-- Each member comes before all later ones. -/
  ascending : toList.Pairwise (· < ·)
deriving DecidableEq

namespace NameSet

instance : Membership Name NameSet := ⟨fun s n => n ∈ s.toList⟩

instance (n : Name) (s : NameSet) : Decidable (n ∈ s) :=
  inferInstanceAs (Decidable (n ∈ s.toList))

theorem mem_iff {n : Name} {s : NameSet} : n ∈ s ↔ n ∈ s.toList := Iff.rfl

/-- The set without members. -/
def empty : NameSet := ⟨[], .nil⟩

instance : EmptyCollection NameSet := ⟨empty⟩

instance : Inhabited NameSet := ⟨empty⟩

/-- Puts a name at its place in an ascending list, unless it is there already. -/
def insertAscending (n : Name) : List Name → List Name
  | [] => [n]
  | m :: rest =>
    if n < m then n :: m :: rest
    else if n = m then m :: rest
    else m :: insertAscending n rest

theorem mem_insertAscending {k n : Name} {l : List Name} :
    k ∈ insertAscending n l ↔ k = n ∨ k ∈ l := by
  induction l with
  | nil => simp [insertAscending]
  | cons m rest ih =>
    simp only [insertAscending]
    split
    · simp
    · split
      · next h => subst h; simp
      · simp [ih]
        constructor <;> (intro h; rcases h with h | h | h <;> simp [h])

theorem pairwise_insertAscending {n : Name} {l : List Name} (h : l.Pairwise (· < ·)) :
    (insertAscending n l).Pairwise (· < ·) := by
  induction l with
  | nil => simp [insertAscending]
  | cons m rest ih =>
    have hm := (List.pairwise_cons.1 h).1
    have hrest := (List.pairwise_cons.1 h).2
    simp only [insertAscending]
    split
    · next hlt =>
      refine List.pairwise_cons.2 ⟨fun k hk => ?_, h⟩
      rcases List.mem_cons.1 hk with rfl | hk
      · exact hlt
      · exact String.lt_trans hlt (hm k hk)
    · next hlt =>
      split
      · exact h
      · next hne =>
        refine List.pairwise_cons.2 ⟨fun k hk => ?_, ih hrest⟩
        rcases mem_insertAscending.1 hk with rfl | hk
        · exact String.not_le.1 fun hle => hne (String.le_antisymm hle (String.not_lt.1 hlt))
        · exact hm k hk

/-- The set with one more member. -/
def insert (s : NameSet) (n : Name) : NameSet :=
  ⟨insertAscending n s.toList, pairwise_insertAscending s.ascending⟩

@[simp] theorem mem_insert {k n : Name} {s : NameSet} : k ∈ s.insert n ↔ k = n ∨ k ∈ s :=
  mem_insertAscending

/-- The set of the names in a list. -/
def ofList (l : List Name) : NameSet :=
  l.foldl insert empty

theorem mem_foldl_insert {k : Name} {l : List Name} {s : NameSet} :
    k ∈ l.foldl insert s ↔ k ∈ s ∨ k ∈ l := by
  induction l generalizing s with
  | nil => simp
  | cons n l ih => simp only [List.foldl_cons, ih, mem_insert, List.mem_cons]; grind

@[simp] theorem mem_ofList {k : Name} {l : List Name} : k ∈ ofList l ↔ k ∈ l := by
  have h : k ∉ empty := by simp [mem_iff, empty]
  simp [ofList, mem_foldl_insert, h]

/-- The members of `s` that are not in `t`. -/
def diff (s t : NameSet) : NameSet :=
  ⟨s.toList.filter (· ∉ t), s.ascending.filter _⟩

@[simp] theorem mem_diff {k : Name} {s t : NameSet} : k ∈ s.diff t ↔ k ∈ s ∧ k ∉ t := by
  simp [diff, mem_iff]

/-- Whether the set has no members. -/
def isEmpty (s : NameSet) : Bool := s.toList.isEmpty

theorem nodup_toList (s : NameSet) : s.toList.Nodup := by
  refine s.ascending.imp ?_
  rintro a b h rfl
  exact String.lt_irrefl _ h

end NameSet

end ServiceClause
