import ServiceClause.Proofs.Query.Boundaries

/-!
# Texts with other texts put in

Putting a text in the place of a variable changes what follows all pieces before it, however far
away. A long string or an IRI that could not end before must not end now, in the text put in or
anywhere after it.

## Main definitions

* `ServiceClause.Token.Escaped` — a text in which every backslash takes a character with it.
* `ServiceClause.Token.Insert` — what may be put in the place of a variable.
* `ServiceClause.Token.Spliced` — a text and the text with others put in.

## Main statements

* `ServiceClause.Token.Spliced.long`, `ServiceClause.Token.Spliced.iri` — what did not end before
  does not end now.
-/

set_option autoImplicit false

namespace ServiceClause

namespace Token

variable {q c d : Char} {cs rest text : List Char} {n : Nat}

/-! ## Long strings that nothing ends -/

/-- If a long string does not end in a text, it does not end in what follows some characters of the
text, with or without the first of them, which a backslash may take away. -/
theorem longStringLength_of_append (h : longStringLength q (cs ++ rest) = none) :
    longStringLength q rest = none ∨ longStringLength q rest.tail = none := by
  induction cs using escapeInduction with
  | nil => exact .inl h
  | lone =>
    cases rest with
    | nil => exact .inl rfl
    | cons d rest =>
      rw [List.cons_append, List.nil_append, longStringLength_pair, Option.map_eq_none_iff] at h
      exact .inr h
  | pair c cs ih =>
    rw [List.cons_append, List.cons_append, longStringLength_pair, Option.map_eq_none_iff] at h
    exact ih h
  | plain c cs hc ih =>
    rw [List.cons_append, longStringLength_cons hc] at h
    split at h
    · cases h
    · exact ih (Option.map_eq_none_iff.1 h)

theorem head?_of_take (h : cs.take (n + 1) = c :: rest) : cs.head? = some c := by
  cases cs with
  | nil => cases h
  | cons d cs =>
    rw [List.take_succ_cons, List.cons.injEq] at h
    rw [h.1, List.head?_cons]

theorem longStringLength_tail (hc : c ≠ '\\') (h : longStringLength q (c :: cs) = none) :
    longStringLength q cs = none := by
  rw [longStringLength_cons hc] at h
  split at h
  · cases h
  · exact Option.map_eq_none_iff.1 h

/-- Characters that are neither quotes nor backslashes do not matter to a long string. -/
theorem longStringLength_append_of_plain {text : List Char}
    (h : ∀ c ∈ text, c ≠ q ∧ c ≠ '\\') :
    longStringLength q (text ++ cs) = (longStringLength q cs).map (· + text.length) := by
  induction text with
  | nil => simp
  | cons c text ih =>
    have hc := h c List.mem_cons_self
    rw [List.cons_append, longStringLength_cons hc.2, if_neg fun hclose => hc.1 hclose.1,
      ih fun d hd => h d (List.mem_cons_of_mem _ hd), Option.map_map]
    rfl

/-- No long string ends in a text without quotes and backslashes. -/
theorem longStringLength_of_plain {text : List Char} (h : ∀ c ∈ text, c ≠ q ∧ c ≠ '\\') :
    longStringLength q text = none := by
  rw [← List.append_nil text, longStringLength_append_of_plain h]
  rfl

/-- A text in which every backslash takes a character with it, which is not a single quote. -/
inductive Escaped : List Char → Prop where
  | nil : Escaped []
  | pair {c : Char} {cs : List Char} (hc : c ≠ '\'') (h : Escaped cs) : Escaped ('\\' :: c :: cs)
  | plain {c : Char} {cs : List Char} (hc : c ≠ '\\') (h : Escaped cs) : Escaped (c :: cs)

theorem Escaped.append (h : Escaped cs) (hrest : Escaped rest) : Escaped (cs ++ rest) := by
  induction h with
  | nil => exact hrest
  | pair hc _ ih => exact .pair hc ih
  | plain hc _ ih => exact .plain hc ih

theorem escaped_of_notMem (h : '\\' ∉ cs) : Escaped cs := by
  induction cs with
  | nil => exact .nil
  | cons c cs ih =>
    rw [List.mem_cons, not_or] at h
    exact .plain (Ne.symm h.1) (ih h.2)

theorem Escaped.tail (h : Escaped (c :: cs)) (hc : c ≠ '\\') : Escaped cs := by
  cases h with
  | pair => exact absurd rfl hc
  | plain _ h => exact h

/-- A long string that ends in neither of two texts does not end in both together, unless quotes at
the end of the first and at the beginning of the second make three. -/
theorem Escaped.longStringLength_append (h : Escaped cs) (hcs : longStringLength q cs = none)
    (hrest : longStringLength q rest = none)
    (hquote : cs.getLast? = some q → rest.head? ≠ some q) :
    longStringLength q (cs ++ rest) = none := by
  induction h with
  | nil => exact hrest
  | @pair c cs _ _ ih =>
    rw [longStringLength_pair, Option.map_eq_none_iff] at hcs
    rw [List.cons_append, List.cons_append, longStringLength_pair, Option.map_eq_none_iff]
    exact ih hcs fun hlast => hquote (by simp [List.getLast?_cons, hlast])
  | @plain c cs hc _ ih =>
    rw [longStringLength_cons hc] at hcs
    split at hcs
    · cases hcs
    next hclose =>
    rw [List.cons_append, longStringLength_cons hc, if_neg, Option.map_eq_none_iff]
    · exact ih (Option.map_eq_none_iff.1 hcs) fun hlast =>
        hquote (by simp [List.getLast?_cons, hlast])
    · rintro ⟨rfl, htake⟩
      match cs with
      | [] => exact hquote rfl (head?_of_take htake)
      | [d] =>
        rw [List.singleton_append, List.take_succ_cons, List.cons.injEq] at htake
        exact hquote (by simp [htake.1]) (head?_of_take htake.2)
      | d :: e :: cs => exact hclose ⟨rfl, by simpa using htake⟩

/-- A long string between single quotes ends at the first three of them in a row. -/
theorem Escaped.longStringLength_eq_none_iff (h : Escaped cs) :
    longStringLength '\'' cs = none ↔ ¬ ['\'', '\'', '\''] <:+: cs := by
  induction h with
  | nil => simp [longStringLength]
  | @pair c cs hc _ ih =>
    rw [longStringLength_pair, Option.map_eq_none_iff, ih, List.infix_cons_iff, List.infix_cons_iff]
    simp [List.cons_prefix_cons, hc.symm]
  | @plain c cs hc _ ih =>
    have hprefix : ['\'', '\'', '\''] <+: c :: cs ↔ c = '\'' ∧ cs.take 2 = ['\'', '\''] := by
      rw [List.cons_prefix_cons, List.prefix_iff_eq_take, eq_comm, eq_comm (a := ['\'', '\''])]
      rfl
    rw [longStringLength_cons hc, List.infix_cons_iff, hprefix, not_or, ← ih]
    split
    · next hclose => simp [hclose]
    · next hclose => simp only [hclose, not_false_eq_true, true_and, Option.map_eq_none_iff]

/-! ## Texts with other texts put in -/

/-- What is put in the place of a variable: it begins with a bracket or a double quote, no IRI goes
through it, and no long string with quotes `q` ends in it. -/
structure Insert (q : Char) (text : List Char) : Prop where
  /-- It begins with a bracket or a double quote. -/
  opens : ∃ c rest, text = c :: rest ∧ (c = '"' ∨ c = '<' ∨ c = '(')
  /-- No IRI goes through it. -/
  bounds : ∀ more, iriLength (text ++ more) = none
  /-- Its backslashes escape characters of its own. -/
  escaped : Escaped text
  /-- No long string ends in it. -/
  unclosed : longStringLength q text = none

/-- A text that ends with `last` becomes another text that ends with `last'`, by putting texts in
the place of some of its variables. Where a quote `q` stands, the text does not go on with a quote
that it did not go on with before. -/
inductive Spliced (q : Char) (last last' : List Char) : List Char → List Char → Prop where
  /-- The end. -/
  | ends : Spliced q last last' last last'
  /-- A character that stays. -/
  | keep {c : Char} {cs cs' : List Char} (h : Spliced q last last' cs cs')
    (hquote : c = q → cs'.head? = some q → cs.head? = some q) :
    Spliced q last last' (c :: cs) (c :: cs')
  /-- A variable that gives way to a text. -/
  | swap {mark : Char} {name text cs cs' : List Char} (hmark : mark = '?' ∨ mark = '$')
    (hname : ∀ c ∈ name, isWord c = true) (htext : Insert q text)
    (hquote : text.getLast? = some q → cs'.head? ≠ some q) (h : Spliced q last last' cs cs') :
    Spliced q last last' (mark :: (name ++ cs)) (text ++ cs')

namespace Spliced

variable {last last' cs' : List Char}

/-- Characters that stay. -/
theorem keepAll {text : List Char} (h : Spliced q last last' cs cs')
    (hquote : text.getLast? = some q → cs'.head? = some q → cs.head? = some q) :
    Spliced q last last' (text ++ cs) (text ++ cs') := by
  induction text with
  | nil => exact h
  | cons c text ih =>
    refine .keep (ih fun hlast => hquote (by simp [List.getLast?_cons, hlast])) ?_
    rintro rfl
    cases text with
    | nil => exact hquote rfl
    | cons d text => exact id

/-- Two quotes that begin the text after a quote began it before. -/
theorem take_two (h : Spliced q last last' cs cs') (hq : IsQuote q) (hlast : last'.head? ≠ some q)
    (hhead : cs.head? = some q) (htake : cs'.take 2 = [q, q]) : cs.take 2 = [q, q] := by
  cases h with
  | ends => exact absurd (head?_of_take htake) hlast
  | @keep c cs cs' h hquote =>
    rw [List.take_succ_cons, List.cons.injEq] at htake
    have hcs := hquote htake.1 (head?_of_take htake.2)
    cases cs with
    | nil => cases hcs
    | cons d cs =>
      rw [List.head?_cons, Option.some.injEq] at hcs
      rw [htake.1, hcs]
      rfl
  | swap hmark =>
    rcases hq with rfl | rfl <;> rcases hmark with rfl | rfl <;> simp at hhead

theorem plain_of_variable {mark : Char} {name : List Char} (hq : IsQuote q)
    (hmark : mark = '?' ∨ mark = '$') (hname : ∀ c ∈ name, isWord c = true) :
    ∀ c ∈ mark :: name, c ≠ q ∧ c ≠ '\\' := by
  have hword : ∀ d, isWord d = false → ∀ c ∈ name, c ≠ d := by
    rintro d hd c hc rfl
    exact absurd (hname c hc) (by simp [hd])
  intro c hc
  rcases List.mem_cons.1 hc with rfl | hc
  · rcases hmark with rfl | rfl <;> rcases hq with rfl | rfl <;> decide
  · refine ⟨hword q ?_ c hc, hword '\\' (by decide +kernel) c hc⟩
    rcases hq with rfl | rfl <;> decide +kernel

/-- A long string that does not end in a text does not end in the text with others put in. -/
theorem long (h : Spliced q last last' cs cs') (hq : IsQuote q) (hlast : last'.head? ≠ some q)
    (hends : longStringLength q last = none → longStringLength q last' = none)
    (hends' : longStringLength q ('\\' :: last) = none →
      longStringLength q ('\\' :: last') = none) :
    (longStringLength q cs = none → longStringLength q cs' = none) ∧
      (longStringLength q ('\\' :: cs) = none → longStringLength q ('\\' :: cs') = none) := by
  induction h with
  | ends => exact ⟨hends, hends'⟩
  | @keep c cs cs' h hquote ih =>
    constructor
    · intro hnone
      by_cases hc : c = '\\'
      · subst hc
        exact ih.2 hnone
      rw [longStringLength_cons hc] at hnone ⊢
      split at hnone
      · cases hnone
      next hclose =>
      rw [if_neg, Option.map_eq_none_iff]
      · exact ih.1 (Option.map_eq_none_iff.1 hnone)
      · rintro ⟨rfl, htake⟩
        exact hclose ⟨rfl, h.take_two hq hlast (hquote rfl (head?_of_take htake)) htake⟩
    · rw [longStringLength_pair, longStringLength_pair, Option.map_eq_none_iff,
        Option.map_eq_none_iff]
      exact ih.1
  | @swap mark name text cs cs' hmark hname htext hquote h ih =>
    have hplain := plain_of_variable hq hmark hname
    obtain ⟨c, rest, rfl, hc⟩ := htext.opens
    have hback : c ≠ '\\' := by
      rcases hc with rfl | rfl | rfl <;> decide
    constructor
    · intro hnone
      rw [← List.cons_append, longStringLength_append_of_plain hplain,
        Option.map_eq_none_iff] at hnone
      exact htext.escaped.longStringLength_append htext.unclosed (ih.1 hnone) hquote
    · intro hnone
      rw [longStringLength_pair, Option.map_eq_none_iff,
        longStringLength_append_of_plain fun d hd => hplain d (List.mem_cons_of_mem _ hd),
        Option.map_eq_none_iff] at hnone
      rw [List.cons_append, longStringLength_pair, Option.map_eq_none_iff]
      exact (htext.escaped.tail hback).longStringLength_append
        (longStringLength_tail hback htext.unclosed) (ih.1 hnone)
        fun hlast => hquote (by simp [List.getLast?_cons, hlast])

/-- An IRI that does not end in a text does not end in the text with others put in. -/
theorem iri (h : Spliced q last last' cs cs')
    (hends : iriLength last = none → iriLength last' = none) :
    iriLength cs = none → iriLength cs' = none := by
  induction h with
  | ends => exact hends
  | @keep c cs cs' h hquote ih =>
    intro hnone
    rw [iriLength_cons] at hnone ⊢
    split at hnone
    · cases hnone
    next hclose =>
    rw [if_neg hclose]
    split at hnone
    · next hexcluded => rw [if_pos hexcluded]
    · next hexcluded =>
      rw [if_neg hexcluded, ih (Option.map_eq_none_iff.1 hnone)]
      rfl
  | swap _ _ htext => exact fun _ => htext.bounds _

/-- A text that does not begin with a word does not do so with others put in. -/
theorem name (h : Spliced q last last' cs cs')
    (hends : last.takeWhile isWord = [] → last'.takeWhile isWord = []) :
    cs.takeWhile isWord = [] → cs'.takeWhile isWord = [] := by
  cases h with
  | ends => exact hends
  | keep h =>
    rw [List.takeWhile_cons, List.takeWhile_cons]
    split <;> simp
  | swap _ _ htext =>
    obtain ⟨c, rest, rfl, hc⟩ := htext.opens
    have hword : isWord c = false := by
      rcases hc with rfl | rfl | rfl <;> decide +kernel
    simp [hword]

/-- A text that begins with the end of a line does so with others put in. -/
theorem line (h : Spliced q last last' cs cs')
    (hends : last.takeWhile (· != '\n') = [] → last'.takeWhile (· != '\n') = []) :
    cs.takeWhile (· != '\n') = [] → cs'.takeWhile (· != '\n') = [] := by
  cases h with
  | ends => exact hends
  | keep h =>
    rw [List.takeWhile_cons, List.takeWhile_cons]
    split <;> simp
  | swap hmark =>
    rcases hmark with rfl | rfl <;> simp

/-- After an empty string, a long string that does not end in a text does not end in the text with
others put in either. -/
theorem empty (h : Spliced q last last' cs cs') (hq : IsQuote q) (hlast : last'.head? ≠ some q)
    (hends : longStringLength q last = none → longStringLength q last' = none)
    (hends' : longStringLength q ('\\' :: last) = none → longStringLength q ('\\' :: last') = none)
    (hhead : cs.head? = some q) (hhead' : cs'.head? = some q)
    (hnone : longStringLength q cs.tail = none) :
    longStringLength q cs'.tail = none := by
  cases h with
  | ends => exact absurd hhead' hlast
  | keep h => exact (h.long hq hlast hends hends').1 hnone
  | swap hmark => rcases hq with rfl | rfl <;> rcases hmark with rfl | rfl <;> simp at hhead

end Spliced

end Token

end ServiceClause
