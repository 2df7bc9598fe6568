/-!
# Cutting text at a separator

## Main definitions

* `ServiceClause.partsBetween` — what stands between the separators.
* `ServiceClause.splitFirst?` — what stands before and behind the first separator.

## Main statements

* `ServiceClause.intercalate_partsBetween` — the parts with separators between them are the text.
* `ServiceClause.notMem_of_mem_partsBetween` — no part holds a separator.
* `ServiceClause.splitFirst?_eq_some_iff` — when a text is cut in two, and where.
-/

set_option autoImplicit false

namespace ServiceClause

/-- What stands between the separators; a text without separators is its only part. -/
def partsBetween (sep : Char) : List Char → List (List Char)
  | [] => [[]]
  | c :: cs =>
    if c = sep then [] :: partsBetween sep cs
    else match partsBetween sep cs with
      | [] => [[c]]
      | p :: ps => (c :: p) :: ps

/-- What stands before and behind the first separator, if there is one. -/
def splitFirst? (sep : Char) (cs : List Char) : Option (List Char × List Char) :=
  match cs.dropWhile (· != sep) with
  | [] => none
  | _ :: rest => some (cs.takeWhile (· != sep), rest)

variable {sep : Char} {cs : List Char}

theorem partsBetween_ne_nil : partsBetween sep cs ≠ [] := by
  cases cs with
  | nil => simp [partsBetween]
  | cons c cs =>
    simp only [partsBetween]
    split
    · simp
    · split <;> simp

theorem intercalate_partsBetween : [sep].intercalate (partsBetween sep cs) = cs := by
  induction cs with
  | nil => rfl
  | cons c cs ih =>
    simp only [partsBetween]
    split
    · next h =>
      subst h
      match hp : partsBetween c cs with
      | [] => exact absurd hp partsBetween_ne_nil
      | p :: ps =>
        rw [hp] at ih
        simp only [List.intercalate, List.intersperse, List.flatten_cons] at ih ⊢
        simp [ih]
    · match hp : partsBetween sep cs with
      | [] => exact absurd hp partsBetween_ne_nil
      | [p] =>
        rw [hp] at ih
        simp only [List.intercalate, List.intersperse, List.flatten_cons, List.flatten_nil,
          List.append_nil] at ih ⊢
        simp [ih]
      | p :: q :: ps =>
        rw [hp] at ih
        simp only [List.intercalate, List.intersperse, List.flatten_cons] at ih ⊢
        simpa using ih

theorem notMem_of_mem_partsBetween {p : List Char} (h : p ∈ partsBetween sep cs) : sep ∉ p := by
  induction cs generalizing p with
  | nil => simp_all [partsBetween]
  | cons c cs ih =>
    simp only [partsBetween] at h
    split at h
    · rcases List.mem_cons.1 h with rfl | h
      · simp
      · exact ih h
    · next hc =>
      split at h
      · next hp => exact absurd hp partsBetween_ne_nil
      · next q qs hp =>
        rcases List.mem_cons.1 h with rfl | h
        · have := ih (hp ▸ List.mem_cons_self)
          simp [this, Ne.symm hc]
        · exact ih (hp ▸ List.mem_cons_of_mem _ h)

/-- A text is cut in two exactly if it is a part without separators, a separator and the rest. -/
theorem splitFirst?_eq_some_iff {before behind : List Char} :
    splitFirst? sep cs = some (before, behind) ↔ cs = before ++ sep :: behind ∧ sep ∉ before := by
  induction cs generalizing before with
  | nil => simp [splitFirst?]
  | cons c cs ih =>
    by_cases hc : c = sep
    · subst hc
      cases before with
      | nil => simp [splitFirst?]
      | cons b bs =>
        simp only [splitFirst?, List.dropWhile_cons, List.takeWhile_cons, bne_self_eq_false]
        simp only [Bool.false_eq_true, if_false, Option.some.injEq, Prod.mk.injEq]
        constructor
        · rintro ⟨h, -⟩
          simp at h
        · rintro ⟨h, hb⟩
          simp only [List.cons_append, List.cons.injEq] at h
          exact absurd (h.1 ▸ List.mem_cons_self) hb
    · have hstep : splitFirst? sep (c :: cs) =
          (splitFirst? sep cs).map fun p => (c :: p.1, p.2) := by
        have hne : (c != sep) = true := by simpa using hc
        simp only [splitFirst?, List.dropWhile_cons, List.takeWhile_cons, hne, if_true]
        split <;> simp_all
      rw [hstep, Option.map_eq_some_iff]
      constructor
      · rintro ⟨⟨u, v⟩, huv, heq⟩
        obtain ⟨rfl, rfl⟩ := Prod.mk.inj heq
        obtain ⟨rfl, hu⟩ := ih.1 huv
        exact ⟨rfl, by simp [hu, Ne.symm hc]⟩
      · rintro ⟨h, hb⟩
        cases before with
        | nil => exact absurd (List.cons.inj h).1 hc
        | cons b bs =>
          obtain ⟨rfl, hcs⟩ := List.cons.inj h
          exact ⟨(bs, behind), ih.2 ⟨hcs, fun hm => hb (List.mem_cons_of_mem _ hm)⟩, rfl⟩

end ServiceClause
