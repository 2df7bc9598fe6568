import ServiceClause.NameSet
import ServiceClause.Term

/-!
# Rows of bindings

A row binds finitely many variables to terms and remembers the order in which they were bound. A
variable that the row does not mention is unbound.

## Main definitions

* `ServiceClause.Row` — a row, with the proof that no variable is bound twice.
* `ServiceClause.Row.insert`, `erase`, `get?` — binding, unbinding and looking up a variable.
* `ServiceClause.Row.merge` — a row extended by the bindings of another, which win.

## Main statements

* `ServiceClause.Bindings.keys_put` — binding keeps every position and appends a new name at the
  end.
* `ServiceClause.Row.get?_insert`, `ServiceClause.Row.get?_erase` — the laws of a finite map.
-/

set_option autoImplicit false

namespace ServiceClause

/-! ## Lists of bindings -/

/-- A list of bindings, in which a name may occur more than once. -/
abbrev Bindings := List (Name × Term)

namespace Bindings

/-- The names of a list of bindings. -/
abbrev keys (l : Bindings) : List Name := l.map Prod.fst

/-- Binds a name in a list of bindings: in its place if it is there, else at the end. -/
def put (n : Name) (t : Term) : Bindings → Bindings
  | [] => [(n, t)]
  | (m, u) :: rest => if m = n then (m, t) :: rest else (m, u) :: put n t rest

/-- Removes the first binding of a name. -/
def erase (n : Name) : Bindings → Bindings
  | [] => []
  | (m, u) :: rest => if m = n then rest else (m, u) :: erase n rest

/-- The term of the first binding of a name. -/
def find? (n : Name) : Bindings → Option Term
  | [] => none
  | (m, u) :: rest => if m = n then some u else find? n rest

variable {n m : Name} {t : Term} {l : Bindings}

theorem keys_put : keys (put n t l) = if n ∈ keys l then keys l else keys l ++ [n] := by
  induction l with
  | nil => simp [put]
  | cons b l ih =>
    obtain ⟨m, u⟩ := b
    simp only [put]
    split
    · next h => simp [h]
    · next h =>
      have h' : n ≠ m := fun e => h e.symm
      simp only [List.map_cons, ih, List.mem_cons, h', false_or]
      split <;> simp

theorem nodup_put (h : (keys l).Nodup) : (keys (put n t l)).Nodup := by
  rw [keys_put]
  split
  · exact h
  · next hn =>
    refine List.nodup_append.2 ⟨h, by simp, fun a ha b hb => ?_⟩
    rintro rfl
    exact hn (List.mem_singleton.1 hb ▸ ha)

theorem keys_erase_sublist : (keys (erase n l)).Sublist (keys l) := by
  induction l with
  | nil => simp [erase]
  | cons b l ih =>
    obtain ⟨m, u⟩ := b
    simp only [erase]
    split
    · simp
    · simpa using ih

theorem nodup_erase (h : (keys l).Nodup) : (keys (erase n l)).Nodup :=
  h.sublist keys_erase_sublist

theorem find?_put : find? m (put n t l) = if m = n then some t else find? m l := by
  induction l with
  | nil => simp [put, find?, eq_comm]
  | cons b l ih =>
    obtain ⟨k, u⟩ := b
    simp only [put]
    split
    · next h => subst h; simp only [find?]; grind
    · next h => simp only [find?, ih]; grind

theorem find?_eq_none_iff : find? n l = none ↔ n ∉ keys l := by
  induction l with
  | nil => simp [find?]
  | cons b l ih =>
    obtain ⟨k, u⟩ := b
    simp only [find?]
    split
    · next h => simp [h]
    · next h => simp [ih, Ne.symm h]

theorem find?_erase (h : (keys l).Nodup) :
    find? m (erase n l) = if m = n then none else find? m l := by
  induction l with
  | nil => simp [erase, find?]
  | cons b l ih =>
    obtain ⟨k, u⟩ := b
    simp only [List.map_cons, List.nodup_cons] at h
    simp only [erase]
    split
    · next hk =>
      subst hk
      simp only [find?]
      split
      · next hm => subst hm; simpa using find?_eq_none_iff.2 h.1
      · next hm => simp [Ne.symm hm]
    · next hk => simp only [find?, ih h.2]; grind

end Bindings

/-! ## Rows -/

/-- A row of bindings. -/
structure Row where
  /-- The bindings in the order in which they were made. -/
  entries : Bindings
  /-- No variable is bound twice. -/
  nodup : (Bindings.keys entries).Nodup
deriving DecidableEq

namespace Row

/-- The row that binds nothing. -/
def empty : Row := ⟨[], by simp⟩

instance : EmptyCollection Row := ⟨empty⟩

instance : Inhabited Row := ⟨empty⟩

/-- The row with `n` bound to `t`, in its old position if it was bound before. -/
def insert (r : Row) (n : Name) (t : Term) : Row :=
  ⟨Bindings.put n t r.entries, Bindings.nodup_put r.nodup⟩

/-- The row with `n` unbound. -/
def erase (r : Row) (n : Name) : Row :=
  ⟨Bindings.erase n r.entries, Bindings.nodup_erase r.nodup⟩

/-- The term that `n` is bound to. -/
def get? (r : Row) (n : Name) : Option Term :=
  Bindings.find? n r.entries

/-- The bound variables in their order. -/
def names (r : Row) : List Name :=
  Bindings.keys r.entries

/-- Whether `n` is bound. -/
def contains (r : Row) (n : Name) : Bool :=
  r.names.contains n

/-- The number of bound variables. -/
def size (r : Row) : Nat :=
  r.entries.length

/-- The bound variables as a set. -/
def nameSet (r : Row) : NameSet :=
  NameSet.ofList r.names

/-- Adds bindings one after another. -/
def insertMany (r : Row) (bindings : Bindings) : Row :=
  bindings.foldl (fun s b => s.insert b.1 b.2) r

/-- The row made from a list of bindings; of two bindings of one name the later gives the term and
the earlier the position. -/
def ofList (bindings : Bindings) : Row :=
  empty.insertMany bindings

/-- The row `input` extended by the bindings of `remote`, which win. -/
def merge (input remote : Row) : Row :=
  input.insertMany remote.entries

/-- The row as shown to people. -/
def text (r : Row) : String :=
  "[" ++ ";".intercalate (r.entries.map fun b => b.1 ++ "=" ++ b.2.text) ++ "]"

variable {r s : Row} {n m : Name} {t : Term}

@[ext] theorem ext (h : r.entries = s.entries) : r = s := by
  cases r; cases s; simp_all

@[simp] theorem entries_empty : empty.entries = [] := rfl

theorem get?_insert : (r.insert n t).get? m = if m = n then some t else r.get? m :=
  Bindings.find?_put

theorem get?_erase : (r.erase n).get? m = if m = n then none else r.get? m :=
  Bindings.find?_erase r.nodup

theorem names_insert :
    (r.insert n t).names = if n ∈ r.names then r.names else r.names ++ [n] :=
  Bindings.keys_put

theorem get?_eq_none_iff : r.get? n = none ↔ n ∉ r.names :=
  Bindings.find?_eq_none_iff

@[simp] theorem mem_nameSet : n ∈ r.nameSet ↔ n ∈ r.names := by
  simp [nameSet]

end Row

end ServiceClause
