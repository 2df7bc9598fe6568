import ServiceClause.Proofs.Query.InlineReader

/-!
# Lexical forms between quotes

A literal is written with its lexical form between double quotes and what annotates it behind them.
Quotes, backslashes and line breaks of the lexical form are escaped, the annotation is not, and
neither is an IRI. So whatever an annotation or an IRI looks like, and however many backslashes and
quotes a lexical form has in a row, a reader finds the end of the lexical form, and a term can be
told from its text.

## Main definitions

* `ServiceClause.Literal.Written` — a lexical form and how it is written.
* `ServiceClause.Literal.escapesNext` — whether the character after a text is escaped.
* `ServiceClause.Literal.QuotesAs` — where the first quote that is not escaped cuts a text.
* `ServiceClause.Literal.unescape` — a text with its escapes undone.

## Main statements

* `ServiceClause.Literal.escapeChar_cases` — what stands for a character between quotes.
* `ServiceClause.Literal.quotesAs_escape` — the quote behind a lexical form is the first one that is
  not escaped.
* `ServiceClause.Literal.unescape_escape` — undoing the escapes.
* `ServiceClause.Term.queryText_determines` — equal texts are texts of equal terms.
-/

set_option autoImplicit false

namespace ServiceClause

namespace Literal

variable {c d : Char} {cs written rest before after text inside inside' after' : List Char}

/-! ## Escapes -/

/-- What stands for a character between double quotes: an escape of it that has no line break, or
the character itself. -/
theorem escapeChar_cases (c : Char) :
    (∃ d, InlineData.escaped? d = some c ∧ d ≠ '\'' ∧ d ≠ '\n' ∧ d ≠ '\r' ∧
      escapeChar c = ['\\', d]) ∨
      escapeChar c = [c] ∧ c ≠ '\\' ∧ c ≠ '"' ∧ c ≠ '\n' ∧ c ≠ '\r' := by
  unfold escapeChar
  split
  · next h => exact .inl ⟨'\\', by rw [h]; rfl, by decide, by decide, by decide, rfl⟩
  split
  · next h => exact .inl ⟨'"', by rw [h]; rfl, by decide, by decide, by decide, rfl⟩
  split
  · next h => exact .inl ⟨'n', by rw [h]; rfl, by decide, by decide, by decide, rfl⟩
  split
  · next h => exact .inl ⟨'r', by rw [h]; rfl, by decide, by decide, by decide, rfl⟩
  · next hback hquote hline hreturn => exact .inr ⟨rfl, hback, hquote, hline, hreturn⟩

theorem escape_cons : escape (c :: cs) = escapeChar c ++ escape cs := rfl

theorem toList_queryText (l : Literal) : l.queryText.toList =
    '"' :: (escape l.lexical.toList ++ '"' :: l.annotation.queryText.toList) := by
  simp [queryText]

/-- A lexical form and how it is written, character by character: an escape of a character, which has
no line break, or the character itself. -/
inductive Written : List Char → List Char → Prop where
  | nil : Written [] []
  | pair {c d : Char} {cs written : List Char} (hd : InlineData.escaped? d = some c)
    (hplain : d ≠ '\'' ∧ d ≠ '\n' ∧ d ≠ '\r') (h : Written cs written) :
    Written (c :: cs) ('\\' :: d :: written)
  | plain {c : Char} {cs written : List Char}
    (hplain : c ≠ '\\' ∧ c ≠ '"' ∧ c ≠ '\n' ∧ c ≠ '\r') (h : Written cs written) :
    Written (c :: cs) (c :: written)

theorem written_escape (cs : List Char) : Written cs (escape cs) := by
  induction cs with
  | nil => exact .nil
  | cons c cs ih =>
    rw [escape_cons]
    rcases escapeChar_cases c with ⟨d, hd, hquote, hline, hreturn, hc⟩ | ⟨hc, hplain⟩
    · rw [hc]
      exact .pair hd ⟨hquote, hline, hreturn⟩ ih
    · rw [hc]
      exact .plain hplain ih

/-- A lexical form has no line break when it is written. -/
theorem Written.ne_of_mem (h : Written cs written) (hc : c ∈ written) : c ≠ '\n' ∧ c ≠ '\r' := by
  induction h with
  | nil => cases hc
  | pair _ hplain _ ih =>
    rw [List.mem_cons, List.mem_cons] at hc
    rcases hc with rfl | rfl | hc
    · decide
    · exact hplain.2
    · exact ih hc
  | plain hplain _ ih =>
    rw [List.mem_cons] at hc
    rcases hc with rfl | hc
    · exact hplain.2.2
    · exact ih hc

/-- The text with its escapes undone, if they are escapes of the query language. -/
def unescape : List Char → Option (List Char)
  | [] => some []
  | '\\' :: d :: rest => do return (← InlineData.escaped? d) :: (← unescape rest)
  | c :: rest => if c = '\\' then none else (unescape rest).map (c :: ·)

theorem unescape_pair (h : InlineData.escaped? d = some c) :
    unescape ('\\' :: d :: rest) = (unescape rest).map (c :: ·) := by
  rw [unescape, h]
  cases unescape rest <;> rfl

theorem unescape_cons (h : c ≠ '\\') : unescape (c :: rest) = (unescape rest).map (c :: ·) := by
  rw [unescape, if_neg h]
  rintro d rest' heq
  exact absurd heq h

theorem Written.unescape_eq (h : Written cs written) : unescape written = some cs := by
  induction h with
  | nil => rfl
  | pair hd _ _ ih =>
    rw [unescape_pair hd, ih]
    rfl
  | plain hplain _ ih =>
    rw [unescape_cons hplain.1, ih]
    rfl

theorem unescape_escape (cs : List Char) : unescape (escape cs) = some cs :=
  (written_escape cs).unescape_eq

/-! ## The closing quote -/

/-- Whether the character that comes after a text is escaped: a backslash escapes what comes after
it unless it is escaped itself. -/
def escapesNext (before : List Char) : Bool :=
  before.foldl (fun escaped c => !escaped && c == '\\') false

/-- The first quote of a text that is not escaped, apart from the quote that opens it, has `inside`
before it and `after` behind it. -/
structure QuotesAs (text inside after : List Char) : Prop where
  /-- There is a quote at this place. -/
  cut : text = '"' :: (inside ++ '"' :: after)
  /-- It is not escaped. -/
  closes : escapesNext inside = false
  /-- Every quote before it is. -/
  first : ∀ {before rest}, inside = before ++ '"' :: rest → escapesNext before = true

theorem escapesNext_append (h : escapesNext before = false) (rest : List Char) :
    escapesNext (before ++ rest) = escapesNext rest := by
  unfold escapesNext at h ⊢
  rw [List.foldl_append, h]

theorem escapesNext_pair (d : Char) : escapesNext ['\\', d] = false := rfl

theorem escapesNext_singleton (h : c ≠ '\\') : escapesNext [c] = false := by
  simp [escapesNext, h]

/-- Nothing of a lexical form escapes the quote behind it. -/
theorem Written.escapesNext_eq (h : Written cs written) : escapesNext written = false := by
  induction h with
  | nil => rfl
  | pair _ _ _ ih => exact (escapesNext_append (escapesNext_pair _) _).trans ih
  | plain hplain _ ih => exact (escapesNext_append (escapesNext_singleton hplain.1) _).trans ih

/-- The quotes of a lexical form are escaped.

**Proof sketch.** Induction on the way it is written. A quote in what stands for the first character
is the second character of an escape; before a later one, what stands for the first character is
complete. -/
theorem Written.escapesNext_of_quote (h : Written cs written)
    (hquote : written = before ++ '"' :: rest) : escapesNext before = true := by
  induction h generalizing before with
  | nil => cases before <;> cases hquote
  | pair _ _ _ ih =>
    rcases before with _ | ⟨e, _ | ⟨e', before⟩⟩
    · exact absurd (List.cons.inj hquote).1 (by decide)
    · obtain ⟨rfl, -⟩ := List.cons.inj hquote
      rfl
    · obtain ⟨rfl, htail⟩ := List.cons.inj hquote
      obtain ⟨rfl, hrest⟩ := List.cons.inj htail
      exact (escapesNext_append (escapesNext_pair _) before).trans (ih hrest)
  | plain hplain _ ih =>
    rcases before with _ | ⟨e, before⟩
    · exact absurd (List.cons.inj hquote).1 hplain.2.1
    · obtain ⟨rfl, hrest⟩ := List.cons.inj hquote
      exact (escapesNext_append (escapesNext_singleton hplain.1) before).trans (ih hrest)

/-- The quote behind a lexical form is the first one that is not escaped. -/
theorem quotesAs_escape (cs after : List Char) :
    QuotesAs ('"' :: (escape cs ++ '"' :: after)) (escape cs) after :=
  ⟨rfl, (written_escape cs).escapesNext_eq, (written_escape cs).escapesNext_of_quote⟩

theorem quotesAs_queryText (l : Literal) :
    QuotesAs l.queryText.toList (escape l.lexical.toList) l.annotation.queryText.toList := by
  rw [toList_queryText]
  exact quotesAs_escape _ _

/-- A first quote is not behind another one. -/
theorem QuotesAs.eq_nil (h : QuotesAs text inside after) (h' : QuotesAs text inside' after')
    (hinside : inside = inside' ++ rest) (hafter : '"' :: after' = rest ++ '"' :: after) :
    rest = [] := by
  cases rest with
  | nil => rfl
  | cons c rest =>
    obtain ⟨rfl, -⟩ := List.cons.inj hafter
    have hescaped := h.first hinside
    rw [h'.closes] at hescaped
    cases hescaped

/-- There is only one first quote. -/
theorem QuotesAs.unique (h : QuotesAs text inside after) (h' : QuotesAs text inside' after') :
    inside' = inside ∧ after' = after := by
  have hcut : inside' ++ '"' :: after' = inside ++ '"' :: after :=
    (List.cons.inj (h'.cut.symm.trans h.cut)).2
  rcases List.append_eq_append_iff.1 hcut with ⟨more, hinside, hafter⟩ | ⟨more, hinside, hafter⟩
  · obtain rfl := h.eq_nil h' hinside hafter
    exact ⟨(hinside.trans (List.append_nil _)).symm, (List.cons.inj hafter).2⟩
  · obtain rfl := h'.eq_nil h hinside hafter
    exact ⟨hinside.trans (List.append_nil _), (List.cons.inj hafter).2.symm⟩

theorem quotesAs_queryText_iff (l : Literal) : QuotesAs l.queryText.toList inside after ↔
    inside = escape l.lexical.toList ∧ after = l.annotation.queryText.toList := by
  constructor
  · exact l.quotesAs_queryText.unique
  · rintro ⟨rfl, rfl⟩
    exact l.quotesAs_queryText

end Literal

/-! ## Terms -/

/-- An annotation can be told from its text, since a tag and a datatype begin differently. -/
theorem Annotation.queryText_inj {a b : Annotation} (h : a.queryText.toList = b.queryText.toList) :
    a = b := by
  cases a <;> cases b <;> simp_all [queryText, String.toList_inj]

/-- A literal can be told from its text.

**Proof sketch.** The texts are cut at the same quote (`QuotesAs.unique`). Before it stands the
escaped lexical form, behind it the annotation. -/
theorem Literal.queryText_inj {l l' : Literal} (h : l.queryText = l'.queryText) : l = l' := by
  obtain ⟨hinside, hafter⟩ := l'.quotesAs_queryText_iff.1 (h ▸ l.quotesAs_queryText)
  have hlexical : l.lexical = l'.lexical := by
    rw [← String.toList_inj, ← Option.some_inj, ← unescape_escape, hinside, unescape_escape]
  have hannotation : l.annotation = l'.annotation := Annotation.queryText_inj hafter
  cases l
  cases l'
  simp_all

theorem Literal.iri_ne_queryText (l : Literal) (i : String) : "<" ++ i ++ ">" ≠ l.queryText := by
  intro h
  have hlist := congrArg String.toList h
  rw [toList_queryText] at hlist
  simp at hlist

namespace Term

/-- A term can be told from its text, or from the error if it has none. -/
theorem queryText_inj {t u : Term} : t.queryText = u.queryText ↔ t = u := by
  refine ⟨fun h => ?_, congrArg queryText⟩
  cases t with
  | iri i =>
    cases u with
    | iri j =>
      have htext : "<" ++ i ++ ">" = "<" ++ j ++ ">" := Except.ok.inj h
      simpa using htext
    | literal l => exact absurd (Except.ok.inj h) (l.iri_ne_queryText i)
    | blankNode label => cases h
  | literal l =>
    cases u with
    | iri j => exact absurd (Except.ok.inj h).symm (l.iri_ne_queryText j)
    | literal l' => exact congrArg literal (Literal.queryText_inj (Except.ok.inj h))
    | blankNode label => cases h
  | blankNode label =>
    cases u with
    | iri j => cases h
    | literal l => cases h
    | blankNode label' =>
      have herror : FederationError.blankNode label = .blankNode label' := Except.error.inj h
      simpa [FederationError.blankNode] using herror

/-- **The text of a term determines it.** Every IRI and every literal has a text, and terms with the
same text are equal, whatever characters their IRIs, lexical forms, language tags and datatypes
have. The text of a literal begins with a quote; of the quotes behind it the first one that no
backslash escapes has only the annotation behind it. Between the two stands no line break, and
undoing the escapes there gives the lexical form.

**Proof sketch.** The written lexical form escapes each of its quotes and leaves nothing escaped
behind it, so the quote behind it is the first of its kind (`Literal.quotesAs_escape`). This quote
cuts the texts of two literals at the same place, and what stands on both sides of it can be read
back. -/
theorem queryText_determines :
    (∀ t : Term, (∃ text, t.queryText = .ok text) ↔ t.isBlankNode = false) ∧
    (∀ t u : Term, t.queryText = u.queryText ↔ t = u) ∧
    ∀ l : Literal, ∃ inside : List Char,
      (∀ before after, Literal.QuotesAs l.queryText.toList before after ↔
        before = inside ∧ after = l.annotation.queryText.toList) ∧
      '\n' ∉ inside ∧ '\r' ∉ inside ∧
      Literal.unescape inside = some l.lexical.toList := by
  refine ⟨fun t => ?_, fun _ _ => queryText_inj, fun l => ⟨Literal.escape l.lexical.toList,
    fun _ _ => l.quotesAs_queryText_iff, fun h => ((Literal.written_escape _).ne_of_mem h).1 rfl,
    fun h => ((Literal.written_escape _).ne_of_mem h).2 rfl, Literal.unescape_escape _⟩⟩
  cases t <;> simp [queryText, isBlankNode]

end Term

end ServiceClause
