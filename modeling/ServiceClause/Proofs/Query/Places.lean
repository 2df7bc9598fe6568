import ServiceClause.Proofs.Query.Completeness

/-!
# Places in a text

A place in a text is where one of its pieces ends and the next one begins, or it lies inside a
piece. Only few pieces go on after a line break.

## Main statements

* `ServiceClause.Token.scan_append_cases` — a place is between pieces or inside one.
* `ServiceClause.Token.iriLength_eq_some_iff` — which texts an opening bracket makes an IRI of.
* `ServiceClause.Token.quoted_of_lineBreak` — a piece that goes on after a line break is a string.
-/

set_option autoImplicit false

namespace ServiceClause

namespace Token

variable {c : Char} {cs text rest u v : List Char} {n : Nat} {piece : Token}
  {pieces later : List Token}

/-! ## Between pieces and inside of them -/

/-- **A place is between pieces or inside one.** Where a text is parted in two, the second part has
the pieces that it has by itself, or a piece lies in both parts.

**Proof sketch.** Induction on the text, piece by piece: the place lies behind the first piece, or
before it, or inside of it. -/
theorem scan_append_cases (u v : List Char) :
    (∃ pieces, scan (u ++ v) = pieces ++ scan v ∧ pieces.flatMap chars = u) ∨
      ∃ pieces piece later inner rest, scan (u ++ v) = pieces ++ piece :: later ∧
        u = pieces.flatMap chars ++ inner ∧ v = rest ++ later.flatMap chars ∧
          piece.chars = inner ++ rest ∧ inner ≠ [] ∧ rest ≠ [] := by
  generalize hcs : u ++ v = cs
  induction cs using scanInduction generalizing u with
  | nil =>
    obtain ⟨rfl, rfl⟩ := List.append_eq_nil_iff.1 hcs
    exact .inl ⟨[], rfl, rfl⟩
  | cons c text rest piece hfirst hchars ih =>
    rw [scan_of_first hfirst]
    rw [← List.cons_append] at hcs
    rcases List.append_eq_append_iff.1 hcs with ⟨back, htext, rfl⟩ | ⟨u', rfl, hrest⟩
    · -- the first piece begins in the first part
      by_cases hu : u = []
      · subst hu
        rw [List.nil_append] at htext
        refine .inl ⟨[], ?_, rfl⟩
        rw [← htext, List.cons_append, scan_of_first hfirst, List.nil_append]
      · by_cases hback : back = []
        · subst hback
          refine .inl ⟨[piece], rfl, ?_⟩
          rw [List.flatMap_cons, hchars, htext]
          simp
        · refine .inr ⟨[], piece, scan rest, u, back, rfl, rfl, ?_, hchars.trans htext, hu, hback⟩
          rw [flatMap_chars_scan]
    · rcases ih u' hrest.symm with ⟨pieces, hscan, hpieces⟩ |
        ⟨pieces, other, later, inner, back, hscan, hu, hv, hother, hinner, hback⟩
      · refine .inl ⟨piece :: pieces, by rw [hscan]; rfl, ?_⟩
        rw [List.flatMap_cons, hchars, hpieces]
      · refine .inr ⟨piece :: pieces, other, later, inner, back, by rw [hscan]; rfl, ?_, hv, hother,
          hinner, hback⟩
        rw [List.flatMap_cons, hchars, hu, List.append_assoc]

/-- A piece is the first one of the text from its place on. -/
theorem first_of_scan (h : scan cs = pieces ++ piece :: later) : ∃ c text,
    piece.chars = c :: text ∧ first c (text ++ later.flatMap chars) = (piece, text.length) := by
  induction pieces generalizing cs with
  | nil =>
    cases cs with
    | nil => simp at h
    | cons c cs =>
      rw [scan_cons, List.nil_append, List.cons.injEq] at h
      obtain ⟨hpiece, rfl⟩ := h
      obtain ⟨hchars, hle⟩ := chars_first c cs
      refine ⟨c, cs.take (first c cs).2, hpiece ▸ hchars, ?_⟩
      rw [flatMap_chars_scan, List.take_append_drop, List.length_take_of_le hle, ← hpiece]
  | cons other pieces ih =>
    cases cs with
    | nil => simp at h
    | cons c cs =>
      rw [scan_cons, List.cons_append, List.cons.injEq] at h
      exact ih h.2

/-! ## IRIs -/

/-- An opening bracket makes an IRI of a text up to the first closing bracket, if all characters
before it can stand in an IRI. -/
theorem iriLength_eq_some_iff : iriLength cs = some n ↔
    ∃ i after, cs = i ++ '>' :: after ∧ (∀ c ∈ i, iriExcludes c = false) ∧ n = i.length + 1 := by
  induction cs generalizing n with
  | nil => simp [iriLength]
  | cons c cs ih =>
    rw [iriLength_cons]
    by_cases hend : c = '>'
    · subst hend
      rw [if_pos rfl]
      constructor
      · intro h
        exact ⟨[], cs, rfl, fun c hc => (by cases hc), (Option.some.inj h).symm⟩
      · rintro ⟨_ | ⟨d, i⟩, after, hcs, hi, rfl⟩
        · rfl
        · obtain ⟨rfl, -⟩ := List.cons.inj hcs
          exact absurd (hi _ List.mem_cons_self) (by decide)
    · rw [if_neg hend]
      by_cases hc : iriExcludes c = true
      · rw [if_pos hc]
        constructor
        · intro h
          cases h
        · rintro ⟨_ | ⟨d, i⟩, after, hcs, hi, -⟩
          · exact absurd (List.cons.inj hcs).1 hend
          · obtain ⟨rfl, -⟩ := List.cons.inj hcs
            rw [hi _ List.mem_cons_self] at hc
            cases hc
      · rw [if_neg hc, Option.map_eq_some_iff]
        constructor
        · rintro ⟨m, hm, rfl⟩
          obtain ⟨i, after, rfl, hi, rfl⟩ := ih.1 hm
          exact ⟨c :: i, after, rfl, List.forall_mem_cons.2 ⟨Bool.not_eq_true _ ▸ hc, hi⟩, rfl⟩
        · rintro ⟨_ | ⟨d, i⟩, after, hcs, hi, rfl⟩
          · exact absurd (List.cons.inj hcs).1 hend
          · obtain ⟨rfl, rfl⟩ := List.cons.inj hcs
            exact ⟨_, ih.2 ⟨i, after, rfl, fun e he => hi e (List.mem_cons_of_mem _ he), rfl⟩, rfl⟩

/-- An IRI begins with an opening bracket. -/
theorem eq_bracket_of_first (h : (first c cs).1 = iri text) : c = '<' :=
  (openedBy_of_first (Prod.ext h rfl : first c cs = (iri text, _))).1

/-! ## Line breaks -/

/-- A piece that goes on after a line break is a string. -/
theorem quoted_of_lineBreak (h : first c (text ++ rest) = (piece, text.length))
    (hbreak : '\n' ∈ text) : piece = quoted (c :: text) := by
  have hne : text.length ≠ 0 := Nat.ne_of_gt (List.length_pos_of_mem hbreak)
  have hopened := openedBy_of_first h
  have hchars := (chars_first c (text ++ rest)).1
  rw [h, List.take_left] at hchars
  cases piece with
  | quoted chars => exact congrArg quoted hchars
  | iri chars =>
    obtain ⟨i, after, hcs, hi, hn⟩ := iriLength_eq_some_iff.1 hopened.2
    have happend : text ++ rest = (i ++ ['>']) ++ after := by simpa using hcs
    have htext : text = i ++ ['>'] :=
      (List.append_inj happend (by rw [hn, List.length_append, List.length_singleton])).1
    rw [htext, List.mem_append, List.mem_singleton] at hbreak
    rcases hbreak with hbreak | hbreak
    · exact absurd (hi _ hbreak) (by decide)
    · exact absurd hbreak (by decide)
  | comment chars =>
    obtain ⟨htext, -⟩ := length_takeWhile_append_iff.1 hopened.2
    exact absurd (htext _ hbreak) (by decide)
  | openBrace => exact absurd hopened.2 hne
  | var mark name =>
    obtain ⟨-, htext, -⟩ := variableLength_append_iff.1 hopened.2.2
    exact absurd (htext _ hbreak) (by decide +kernel)
  | other d => exact absurd hopened.2 hne

end Token

end ServiceClause
