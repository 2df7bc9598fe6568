import ServiceClause.Proofs.Query.InlineRoundTrip
import ServiceClause.Proofs.Query.Splicing
import ServiceClause.Proofs.Query.Substitution

/-!
# Values as pieces of a query

A term written into a query makes pieces of its own: a string and what annotates it, or an IRI. It
can be put in the place of a variable: no IRI and no long string between double quotes that begins
before it comes to an end in it. A long string between single quotes does so at three of them in a
row, which the text of a term does not escape.

## Main definitions

* `ServiceClause.Term.pieces` — the pieces of a term.
* `ServiceClause.Term.Insertable` — a term whose annotation or IRI is well-formed.

## Main statements

* `ServiceClause.Term.scan_text` — a term is scanned as its pieces.
* `ServiceClause.Term.insert_text` — a term can be put in the place of a variable.
-/

set_option autoImplicit false

namespace ServiceClause

/-! ## The pieces of a term -/

/-- The pieces of an annotation. -/
def Annotation.pieces : Annotation → List Token
  | .plain => []
  | .language tag => ('@' :: tag.toList).map .other
  | .datatype i => [.other '^', .other '^', .iri ('<' :: (i.toList ++ ['>']))]

/-- The pieces of a term: a string and its annotation, or an IRI. -/
def Term.pieces : Term → List Token
  | .iri i => [.iri ('<' :: (i.toList ++ ['>']))]
  | .literal l =>
    .quoted ('"' :: (Literal.escape l.lexical.toList ++ ['"'])) :: l.annotation.pieces
  | .blankNode _ => []

/-- Whether a character belongs to a language tag: a letter, a digit or a hyphen. -/
def isTagChar (c : Char) : Bool := c == '-' || isAlphanumeric c

/-- Whether an annotation cannot be taken for anything else: the tag has only letters, digits and
hyphens, the datatype only characters that can stand in an IRI. -/
def Annotation.Insertable : Annotation → Prop
  | .plain => True
  | .language tag => ∀ c ∈ tag.toList, isTagChar c = true
  | .datatype i => IsIriText i.toList

/-- Whether a term is an IRI or a literal of any lexical form, with an IRI or annotation that cannot
be taken for anything else. -/
def Term.Insertable : Term → Prop
  | .iri i => IsIriText i.toList
  | .literal l => l.annotation.Insertable
  | .blankNode _ => False

variable {q c : Char} {cs rest : List Char} {t : Term}

/-! ## Characters -/

/-- Letters, digits and hyphens open nothing and neither quote nor escape. -/
theorem ne_of_isTagChar {d : Char} (h : isTagChar c = true) (hd : isTagChar d = false) : c ≠ d := by
  rintro rfl
  exact absurd h (by simp [hd])

theorem notMem_opening_of_isTagChar (h : isTagChar c = true) : c ∉ Token.opening :=
  Token.notMem_of_all (by decide +kernel) h

/-- The characters of an IRI are neither double quotes nor backslashes. -/
theorem IsIriText.ne (h : IsIriText cs) (hc : c ∈ cs) : c ≠ '"' ∧ c ≠ '\\' := by
  have hexcluded := h c hc
  constructor <;> rintro rfl <;> revert hexcluded <;> decide

namespace Literal

variable {written : List Char}

theorem Written.escaped (h : Written cs written) : Token.Escaped written := by
  induction h with
  | nil => exact .nil
  | pair _ hplain _ ih => exact .pair hplain.1 ih
  | plain hplain _ ih => exact .plain hplain.1 ih

theorem escaped_escape (cs : List Char) : Token.Escaped (escape cs) :=
  (written_escape cs).escaped

theorem Written.shortStringLength_append (h : Written cs written) (rest : List Char) :
    Token.shortStringLength '"' (written ++ rest) =
      (Token.shortStringLength '"' rest).map (· + written.length) := by
  induction h with
  | nil => simp
  | pair _ _ _ ih =>
    simp only [List.cons_append]
    rw [Token.shortStringLength_pair, ih, Option.map_map]
    rfl
  | plain hplain _ ih =>
    obtain ⟨hback, hquote, hline, hreturn⟩ := hplain
    simp only [List.cons_append]
    rw [Token.shortStringLength_cons hback, if_neg hquote, if_neg fun h => h.elim hline hreturn,
      ih, Option.map_map]
    rfl

/-- A string ends where its lexical form ends. -/
theorem shortStringLength_escape (cs rest : List Char) :
    Token.shortStringLength '"' (escape cs ++ rest) =
      (Token.shortStringLength '"' rest).map (· + (escape cs).length) :=
  (written_escape cs).shortStringLength_append rest

theorem Written.longStringLength_append (h : Written cs written) (rest : List Char) :
    Token.longStringLength '"' (written ++ rest) =
      (Token.longStringLength '"' rest).map (· + written.length) := by
  induction h with
  | nil => simp
  | pair _ _ _ ih =>
    simp only [List.cons_append]
    rw [Token.longStringLength_pair, ih, Option.map_map]
    rfl
  | plain hplain _ ih =>
    simp only [List.cons_append]
    rw [Token.longStringLength_cons hplain.1, if_neg fun h => hplain.2.1 h.1, ih, Option.map_map]
    rfl

/-- No long string ends in a lexical form. -/
theorem longStringLength_escape (cs rest : List Char) :
    Token.longStringLength '"' (escape cs ++ rest) =
      (Token.longStringLength '"' rest).map (· + (escape cs).length) :=
  (written_escape cs).longStringLength_append rest

/-- A lexical form does not begin with a quote. -/
theorem take_escape (hrest : rest.head? ≠ some '"') (cs : List Char) :
    (escape cs ++ '"' :: rest).take 2 ≠ ['"', '"'] := by
  cases cs with
  | nil =>
    cases rest with
    | nil => simp [escape]
    | cons d rest => simpa [escape] using hrest
  | cons c cs =>
    rw [escape_cons]
    rcases escapeChar_cases c with ⟨d, -, -, -, -, hc⟩ | ⟨hc, -, hquote, -⟩
    · simp [hc]
    · simp [hc, hquote]

/-- A lexical form in double quotes is a string, unless a quote comes after it. -/
theorem scan_escape (hrest : rest.head? ≠ some '"') (cs : List Char) :
    Token.scan ('"' :: (escape cs ++ '"' :: rest)) =
      .quoted ('"' :: (escape cs ++ ['"'])) :: Token.scan rest := by
  have hlength : Token.stringLength '"' (escape cs ++ ['"'] ++ rest) =
      some (escape cs ++ ['"']).length := by
    rw [List.append_assoc, List.singleton_append,
      Token.stringLength_of_not_take (take_escape hrest cs), shortStringLength_escape,
      Token.shortStringLength_cons (by decide), if_pos rfl]
    simp [Nat.add_comm]
  have hfirst : Token.first '"' (escape cs ++ ['"'] ++ rest) =
      (.quoted ('"' :: (escape cs ++ ['"'])), (escape cs ++ ['"']).length) := by
    simp only [Token.first, hlength, Token.opened, List.take_left]
    rfl
  rw [← Token.scan_of_first hfirst, List.append_assoc, List.singleton_append]

end Literal

/-! ## Annotations -/

namespace Annotation

variable {a : Annotation}

theorem head?_queryText (a : Annotation) (rest : List Char) (hrest : rest.head? ≠ some '"') :
    (a.queryText.toList ++ rest).head? ≠ some '"' := by
  cases a <;> simp [queryText, hrest]

theorem scan_queryText (h : a.Insertable) (rest : List Char) :
    Token.scan (a.queryText.toList ++ rest) = a.pieces ++ Token.scan rest := by
  cases a with
  | plain => rfl
  | language tag =>
    have hopen : ∀ c ∈ '@' :: tag.toList, c ∉ Token.opening := by
      intro c hc
      rcases List.mem_cons.1 hc with rfl | hc
      · decide
      · exact notMem_opening_of_isTagChar (h c hc)
    simpa [queryText, pieces] using Token.scan_of_notMem hopen rest
  | datatype i =>
    have hcarets := @Token.scan_of_all ['^', '^'] (by decide)
      ('<' :: (i.toList ++ '>' :: rest))
    rw [Token.scan_iri h] at hcarets
    simpa [queryText, pieces] using hcarets

/-- Annotations do not quote or escape. -/
theorem notMem_queryText (h : a.Insertable) :
    '"' ∉ a.queryText.toList ∧ '\\' ∉ a.queryText.toList := by
  cases a with
  | plain => simp [queryText]
  | language tag =>
    have hquote : '"' ∉ tag.toList := fun hmem =>
      ne_of_isTagChar (h _ hmem) (d := '"') (by decide +kernel) rfl
    have hback : '\\' ∉ tag.toList := fun hmem =>
      ne_of_isTagChar (h _ hmem) (d := '\\') (by decide +kernel) rfl
    simp [queryText, hquote, hback]
  | datatype i =>
    have hquote : '"' ∉ i.toList := fun hmem => (h.ne hmem).1 rfl
    have hback : '\\' ∉ i.toList := fun hmem => (h.ne hmem).2 rfl
    simp [queryText, hquote, hback]

theorem getLast?_queryText (h : a.Insertable) : a.queryText.toList.getLast? ≠ some '\'' := by
  cases a with
  | plain => simp [queryText]
  | language tag =>
    intro hlast
    have hmem := List.mem_of_getLast? hlast
    rw [queryText, String.toList_append, List.mem_append] at hmem
    rcases hmem with hmem | hmem
    · revert hmem
      decide
    · exact ne_of_isTagChar (h _ hmem) (d := '\'') (by decide +kernel) rfl
  | datatype i => simp [queryText, List.getLast?_cons]

end Annotation

/-! ## Terms -/

namespace Term

theorem toList_text_literal (l : Literal) : (literal l).text.toList =
    '"' :: (Literal.escape l.lexical.toList ++ '"' :: l.annotation.queryText.toList) :=
  l.toList_queryText

theorem toList_text_iri (i : String) : (iri i).text.toList = '<' :: (i.toList ++ ['>']) := by
  simp [text]

/-- A term is scanned as its pieces, unless a quote comes after it. -/
theorem scan_text (h : t.Insertable) (hrest : rest.head? ≠ some '"') :
    Token.scan (t.text.toList ++ rest) = t.pieces ++ Token.scan rest := by
  cases t with
  | iri i =>
    rw [toList_text_iri, List.cons_append, List.append_assoc, List.singleton_append,
      Token.scan_iri h]
    rfl
  | literal l =>
    have hhead := Annotation.head?_queryText l.annotation rest hrest
    rw [toList_text_literal, List.cons_append, List.append_assoc, List.cons_append,
      Literal.scan_escape hhead, Annotation.scan_queryText h]
    rfl
  | blankNode _ => exact h.elim

theorem head?_text (h : t.Insertable) :
    ∃ c rest, t.text.toList = c :: rest ∧ (c = '"' ∨ c = '<') := by
  cases t with
  | iri i => exact ⟨'<', _, toList_text_iri i, .inr rfl⟩
  | literal l => exact ⟨'"', _, toList_text_literal l, .inl rfl⟩
  | blankNode _ => exact h.elim

theorem escaped_text (h : t.Insertable) : Token.Escaped t.text.toList := by
  cases t with
  | iri i =>
    refine Token.escaped_of_notMem fun hmem => ?_
    rw [toList_text_iri] at hmem
    simp only [List.mem_cons, List.mem_append, List.not_mem_nil, or_false] at hmem
    rcases hmem with hmem | hmem | hmem
    · revert hmem
      decide
    · exact (IsIriText.ne h hmem).2 rfl
    · revert hmem
      decide
  | literal l =>
    rw [toList_text_literal]
    refine .plain (by decide) ((Literal.escaped_escape _).append (.plain (by decide) ?_))
    obtain ⟨-, hquote⟩ := Annotation.notMem_queryText h
    exact Token.escaped_of_notMem hquote
  | blankNode _ => exact h.elim

theorem getLast?_text (h : t.Insertable) : t.text.toList.getLast? ≠ some '\'' := by
  cases t with
  | iri i => simp [toList_text_iri, List.getLast?_cons]
  | literal l =>
    have hlast := Annotation.getLast?_queryText h
    rw [toList_text_literal, ← List.singleton_append (l := l.annotation.queryText.toList),
      ← List.append_assoc, ← List.cons_append, List.getLast?_append]
    cases hmark : l.annotation.queryText.toList.getLast? with
    | none => simp [List.getLast?_cons]
    | some c => simpa [hmark] using hlast
  | blankNode _ => exact h.elim

/-- No long string between double quotes ends in a term. -/
theorem longStringLength_text (h : t.Insertable) :
    Token.longStringLength '"' t.text.toList = none := by
  cases t with
  | iri i =>
    rw [toList_text_iri]
    refine Token.longStringLength_of_plain fun c hc => ?_
    simp only [List.mem_cons, List.mem_append, List.not_mem_nil, or_false] at hc
    rcases hc with rfl | hc | rfl
    · decide
    · exact IsIriText.ne h hc
    · decide
  | literal l =>
    obtain ⟨hquote, hback⟩ := Annotation.notMem_queryText h
    have hhead : l.annotation.queryText.toList.head? ≠ some '"' := by
      simpa using Annotation.head?_queryText l.annotation [] (by simp)
    have hmark : Token.longStringLength '"' l.annotation.queryText.toList = none :=
      Token.longStringLength_of_plain fun c hc =>
        ⟨fun h => hquote (h ▸ hc), fun h => hback (h ▸ hc)⟩
    have hclose : ('"' :: l.annotation.queryText.toList).head? = some '"' := rfl
    rw [toList_text_literal, Token.longStringLength_cons (by decide),
      if_neg fun h => Literal.take_escape hhead _ h.2, Literal.longStringLength_escape,
      Token.longStringLength_cons (by decide), if_neg, hmark]
    · rfl
    · rintro ⟨-, htake⟩
      exact hhead (Token.head?_of_take htake)
  | blankNode _ => exact h.elim

/-- Whether the text has three single quotes in a row. -/
def HasTripleQuote (t : Term) : Prop := ['\'', '\'', '\''] <:+: t.text.toList

/-- A long string between single quotes ends in a term that has three of them in a row. -/
theorem longStringLength_text_eq_none_iff (h : t.Insertable) :
    Token.longStringLength '\'' t.text.toList = none ↔ ¬ t.HasTripleQuote :=
  (escaped_text h).longStringLength_eq_none_iff

theorem iriLength_text (h : t.Insertable) (more : List Char) :
    Token.iriLength (t.text.toList ++ more) = none := by
  obtain ⟨c, rest, htext, hc⟩ := head?_text h
  rw [htext, List.cons_append, Token.iriLength_cons]
  rcases hc with rfl | rfl <;> rfl

/-- A term can be put in the place of a variable in the pattern. -/
theorem insert_text (h : t.Insertable) (hnone : Token.longStringLength q t.text.toList = none) :
    Token.Insert q t.text.toList where
  opens := by
    obtain ⟨c, rest, htext, hc⟩ := head?_text h
    exact ⟨c, rest, htext, hc.imp_right .inl⟩
  bounds := iriLength_text h
  escaped := escaped_text h
  unclosed := hnone

end Term

end ServiceClause
