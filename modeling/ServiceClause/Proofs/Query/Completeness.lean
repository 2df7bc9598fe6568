import ServiceClause.Proofs.Query.Boundaries
import ServiceClause.Text.Blank

/-!
# Complete texts

In a complete text every quote lies inside a string, an IRI or a comment. What comes after a piece
of such a text matters in few ways: a comment and a name may go on, an IRI may be closed, and an
empty string with a third quote after it may become a long one.

## Main definitions

* `ServiceClause.Token.Complete` — every quote lies inside a string, an IRI or a comment.

## Main statements

* `ServiceClause.Token.Complete.first_congr` — when a piece stays the same before another text.
* `ServiceClause.Token.longStringLength_of_scan` — an empty string before a third quote shows that
  no long string ends later.
* `ServiceClause.Token.Complete.trim` — white space at the ends does not matter to completeness.
-/

set_option autoImplicit false

namespace ServiceClause

/-! ## White space -/

/-- A text is a text without white space at its ends between white space. -/
theorem exists_blanks (cs : List Char) : ∃ before after, cs = before ++ (trimBlanks cs ++ after) ∧
    (∀ c ∈ before, isBlank c = true) ∧ ∀ c ∈ after, isBlank c = true := by
  refine ⟨cs.takeWhile isBlank, ((cs.dropWhile isBlank).reverse.takeWhile isBlank).reverse,
    ?_, List.all_eq_true.1 List.all_takeWhile, fun c hc => ?_⟩
  · rw [trimBlanks, ← List.reverse_append, List.takeWhile_append_dropWhile, List.reverse_reverse,
      List.takeWhile_append_dropWhile]
  · exact List.all_eq_true.1 List.all_takeWhile c (List.mem_reverse.1 hc)

theorem notMem_of_isBlank {c : Char} (h : isBlank c = true) : c ∉ '>' :: Token.opening :=
  Token.notMem_of_all (by decide) h

namespace Token

/-- Every quote of a text lies inside a string, an IRI or a comment. -/
def Complete (cs : List Char) : Prop := ∀ q, IsQuote q → other q ∉ scan cs

variable {q c : Char} {cs rest more text : List Char} {piece : Token} {pieces : List Token}

/-! ## Pieces of complete texts -/

theorem Complete.of_first (h : Complete (c :: (text ++ rest)))
    (hfirst : first c (text ++ rest) = (piece, text.length)) :
    (∀ q, IsQuote q → piece ≠ other q) ∧ Complete rest := by
  refine ⟨fun q hq hpiece => h q hq ?_, fun q hq hmem => h q hq ?_⟩
  · rw [scan_of_first hfirst, hpiece]
    exact List.mem_cons_self
  · rw [scan_of_first hfirst]
    exact List.mem_cons_of_mem _ hmem

/-- A quote that is no piece by itself opens a string. -/
theorem first_of_ne_other (hq : IsQuote c)
    (hfirst : first c (text ++ rest) = (piece, text.length)) (hpiece : piece ≠ other c) :
    stringLength c (text ++ rest) = some text.length ∧ piece = quoted (c :: text) := by
  rw [first_of_isQuote hq] at hfirst
  cases hlength : stringLength c (text ++ rest) with
  | none =>
    rw [hlength] at hfirst
    exact absurd (Prod.mk.inj hfirst).1.symm hpiece
  | some n =>
    rw [hlength, opened, Prod.mk.injEq] at hfirst
    obtain ⟨rfl, rfl⟩ := hfirst
    exact ⟨rfl, by rw [List.take_left]⟩

/-- A quote at the beginning of a complete text opens a string. -/
theorem Complete.exists_quoted (h : Complete cs) (hq : IsQuote q) (hhead : cs.head? = some q) :
    ∃ next back, scan cs = quoted (q :: next) :: back := by
  cases cs using scanInduction with
  | nil => cases hhead
  | cons c text rest piece hfirst hchars =>
    obtain rfl := Option.some.inj hhead
    have hpiece := (h.of_first hfirst).1 c hq
    refine ⟨text, scan rest, ?_⟩
    rw [scan_of_first hfirst, (first_of_ne_other hq hfirst hpiece).2]

/-- A piece of a complete text stays the same if what comes after it is changed, provided that a
comment is followed by the end of its line as before, a name by no character of a word, what could
not become an IRI before cannot become one now, and an empty string that is no long one before a
third quote is none now. -/
theorem Complete.first_congr (h : Complete (c :: (text ++ rest)))
    (hfirst : first c (text ++ rest) = (piece, text.length))
    (hcomment : c = '#' → rest.takeWhile (· != '\n') = [] → more.takeWhile (· != '\n') = [])
    (hname : rest.takeWhile isWord = [] → more.takeWhile isWord = [])
    (hiri : iriLength rest = none → iriLength more = none)
    (hhead : IsQuote c → piece = quoted [c, c] → more.head? = some c → rest.head? = some c)
    (hempty : ∀ next back, IsQuote c →
      quoted [c, c] :: quoted (c :: next) :: back = piece :: scan rest → rest.head? = some c →
        more.head? = some c → longStringLength c rest.tail = none →
          longStringLength c more.tail = none) :
    first c (text ++ more) = (piece, text.length) := by
  obtain ⟨hpiece, hrest⟩ := h.of_first hfirst
  refine Token.first_congr hfirst hcomment hname hiri (fun hq htext hlength => ?_)
    fun hq htext hends hhead' => ?_
  · subst htext
    have hstring := (first_of_ne_other hq hfirst (hpiece c hq)).1
    rw [List.nil_append, hlength] at hstring
    cases hstring
  · have hpiece' : piece = quoted [c, c] := by
      rw [(first_of_ne_other hq hfirst (hpiece c hq)).2, htext]
    have hrestHead := hhead hq hpiece' hhead'
    obtain ⟨next, back, hback⟩ := hrest.exists_quoted hq hrestHead
    exact hempty next back hq (by rw [hpiece', hback]) hrestHead hhead' (hends hrestHead)

/-! ## The last part of a text -/

/-- The last pieces of a text are the pieces of the last part of the text. -/
theorem scan_of_append {front back : List Token} (h : scan cs = front ++ back) :
    scan (back.flatMap chars) = back := by
  induction front generalizing cs with
  | nil => rw [← List.nil_append back, ← h, flatMap_chars_scan]
  | cons piece front ih =>
    cases cs with
    | nil => simp at h
    | cons c cs =>
      rw [scan_cons, List.cons_append, List.cons.injEq] at h
      exact ih h.2

/-- Where a text begins with an empty string and a third quote, no long string ends later. -/
theorem longStringLength_of_scan {next : List Char} (hq : IsQuote q)
    (h : scan (q :: q :: q :: next) = quoted [q, q] :: pieces) :
    longStringLength q next = none := by
  rw [scan_cons, first_of_isQuote hq, List.cons.injEq] at h
  cases hlength : stringLength q (q :: q :: next) with
  | none =>
    rw [hlength] at h
    exact absurd h.1 Token.noConfusion
  | some n =>
    rw [hlength] at h
    have hone : n = 1 := by
      have hchars := congrArg (List.length ∘ chars) h.1
      have hbounds := stringLength_bounds hlength
      simp only [opened, Function.comp_apply, chars, List.length_cons, List.length_take,
        List.length_nil] at hchars hbounds
      omega
    rw [hone] at hlength
    exact (stringLength_empty_iff hq.ne_backslash).1 hlength rfl

/-! ## Texts without quotes -/

theorem longStringLength_of_notMem (h : q ∉ cs) : longStringLength q cs = none := by
  induction cs using escapeInduction with
  | nil => rfl
  | lone => exact longStringLength_lone
  | pair c cs ih =>
    simp only [List.mem_cons, not_or] at h
    rw [longStringLength_pair, ih h.2.2]
    rfl
  | plain c cs hc ih =>
    rw [List.mem_cons, not_or] at h
    rw [longStringLength_cons hc, if_neg fun hclose => h.1 hclose.1.symm, ih h.2]
    rfl

theorem take_two_of_append (hmore : q ∉ more) (h : (cs ++ more).take 2 = [q, q]) :
    cs.take 2 = [q, q] := by
  match cs with
  | [] => exact absurd (List.mem_of_mem_take (h ▸ List.mem_cons_self)) hmore
  | [d] =>
    rw [List.singleton_append, List.take_succ_cons, List.cons.injEq] at h
    exact absurd (List.mem_of_mem_take (h.2 ▸ List.mem_cons_self)) hmore
  | d :: e :: cs => exact h

/-- A long string that does not end in a text does not end in a text without quotes after it. -/
theorem longStringLength_append_of_notMem (h : longStringLength q cs = none) (hmore : q ∉ more) :
    longStringLength q (cs ++ more) = none := by
  induction cs using escapeInduction with
  | nil => exact longStringLength_of_notMem hmore
  | lone =>
    cases more with
    | nil => exact longStringLength_lone
    | cons d more =>
      rw [List.mem_cons, not_or] at hmore
      rw [List.singleton_append, longStringLength_pair, longStringLength_of_notMem hmore.2]
      rfl
  | pair c cs ih =>
    rw [longStringLength_pair, Option.map_eq_none_iff] at h
    rw [List.cons_append, List.cons_append, longStringLength_pair, ih h]
    rfl
  | plain c cs hc ih =>
    rw [longStringLength_cons hc] at h
    split at h
    · cases h
    next hclose =>
    rw [List.cons_append, longStringLength_cons hc, if_neg, ih (Option.map_eq_none_iff.1 h)]
    · rfl
    · exact fun hclose' => hclose ⟨hclose'.1, take_two_of_append hmore hclose'.2⟩

theorem shortStringLength_of_notMem (hq : q ≠ '\\') (h : q ∉ cs) :
    shortStringLength q cs = none := by
  induction cs using escapeInduction with
  | nil => rfl
  | lone => exact shortStringLength_lone hq
  | pair c cs ih =>
    simp only [List.mem_cons, not_or] at h
    rw [shortStringLength_pair, ih h.2.2]
    rfl
  | plain c cs hc ih =>
    rw [List.mem_cons, not_or] at h
    rw [shortStringLength_cons hc, if_neg (Ne.symm h.1)]
    split
    · rfl
    · rw [ih h.2]
      rfl

theorem shortStringLength_append_of_notMem (hq : q ≠ '\\') (h : shortStringLength q cs = none)
    (hmore : q ∉ more) : shortStringLength q (cs ++ more) = none := by
  induction cs using escapeInduction with
  | nil => exact shortStringLength_of_notMem hq hmore
  | lone =>
    cases more with
    | nil => exact shortStringLength_lone hq
    | cons d more =>
      rw [List.mem_cons, not_or] at hmore
      rw [List.singleton_append, shortStringLength_pair, shortStringLength_of_notMem hq hmore.2]
      rfl
  | pair c cs ih =>
    rw [shortStringLength_pair, Option.map_eq_none_iff] at h
    rw [List.cons_append, List.cons_append, shortStringLength_pair, ih h]
    rfl
  | plain c cs hc ih =>
    rw [shortStringLength_cons hc] at h
    rw [List.cons_append, shortStringLength_cons hc]
    split at h
    · cases h
    next hclose =>
    rw [if_neg hclose]
    split at h
    · next hline => rw [if_pos hline]
    · next hline =>
      rw [if_neg hline, ih (Option.map_eq_none_iff.1 h)]
      rfl

/-- A quote that opens no string in a text opens none if a text without quotes comes after it. -/
theorem stringLength_append_of_notMem (hq : q ≠ '\\') (h : stringLength q cs = none)
    (hmore : q ∉ more) : stringLength q (cs ++ more) = none := by
  have htake : cs.take 2 ≠ [q, q] := by
    intro htake
    rw [stringLength_of_take hq htake, Option.or_eq_none_iff] at h
    cases h.2
  rw [stringLength_of_not_take htake] at h
  rw [stringLength_of_not_take fun h => htake (take_two_of_append hmore h)]
  exact shortStringLength_append_of_notMem hq h hmore

theorem iriLength_append_of_notMem (h : iriLength cs = none) (hmore : '>' ∉ more) :
    iriLength (cs ++ more) = none := by
  induction cs with
  | nil =>
    induction more with
    | nil => rfl
    | cons c more ih =>
      rw [List.mem_cons, not_or] at hmore
      rw [List.nil_append, iriLength_cons, if_neg (Ne.symm hmore.1)]
      split
      · rfl
      · rw [← List.nil_append more, ih hmore.2]
        rfl
  | cons c cs ih =>
    rw [iriLength_cons] at h
    rw [List.cons_append, iriLength_cons]
    split at h
    · cases h
    next hclose =>
    rw [if_neg hclose]
    split at h
    · next hexcluded => rw [if_pos hexcluded]
    · next hexcluded =>
      rw [if_neg hexcluded, ih (Option.map_eq_none_iff.1 h)]
      rfl

/-- A quote that is a piece by itself stays one if a text without quotes comes after it.

**Proof sketch.** Induction on the text, piece by piece. Only the last piece may go on into the text
after it, and it is the quote, which opens no string then either. -/
theorem mem_scan_append (hq : IsQuote q) (hmore : ∀ c ∈ more, c ≠ '>' ∧ ¬ IsQuote c)
    (h : other q ∈ scan cs) : other q ∈ scan (cs ++ more) := by
  have hquote : ∀ d, IsQuote d → d ∉ more := fun d hd hmem => (hmore d hmem).2 hd
  induction cs using scanInduction with
  | nil => simp at h
  | cons c text rest piece hfirst hchars ih =>
    rw [scan_of_first hfirst] at h
    cases rest with
    | nil =>
      rw [scan_nil, List.mem_singleton] at h
      subst h
      obtain ⟨rfl, rfl⟩ := List.cons.inj hchars
      have hlength : stringLength q ([] ++ more) = none :=
        stringLength_append_of_notMem hq.ne_backslash rfl (hquote q hq)
      rw [List.append_nil, List.singleton_append, scan_cons, first_of_isQuote hq,
        ← List.nil_append more, hlength]
      exact List.mem_cons_self
    | cons d rest =>
      have hsame : first c (text ++ (d :: rest ++ more)) = (piece, text.length) := by
        refine first_congr hfirst (fun _ => ?_) ?_
          (fun hnone => iriLength_append_of_notMem hnone fun hmem => (hmore _ hmem).1 rfl)
          (fun hc _ hnone => stringLength_append_of_notMem hc.ne_backslash hnone (hquote c hc))
          fun hc _ hends hhead => ?_
        · rw [List.cons_append, List.takeWhile_cons, List.takeWhile_cons]
          split <;> simp
        · rw [List.cons_append, List.takeWhile_cons, List.takeWhile_cons]
          split <;> simp
        · exact longStringLength_append_of_notMem (hends hhead) (hquote c hc)
      rw [List.cons_append, List.append_assoc, scan_of_first hsame, List.mem_cons]
      exact (List.mem_cons.1 h).imp_right ih

/-- White space at the ends of a text does not matter to its completeness, nor does a line break
after it. -/
theorem Complete.trim (h : Complete (cs ++ ['\n'])) : Complete (trimBlanks cs) := by
  obtain ⟨before, after, hcs, hbefore, hafter⟩ := exists_blanks cs
  intro q hq hmem
  apply h q hq
  have hopen : ∀ c ∈ before, c ∉ opening := fun c hc hmem =>
    notMem_of_isBlank (hbefore c hc) (List.mem_cons_of_mem _ hmem)
  have hmore : ∀ c ∈ after ++ ['\n'], c ≠ '>' ∧ ¬ IsQuote c := by
    intro c hc
    have hblank : isBlank c = true := by
      rcases List.mem_append.1 hc with hc | hc
      · exact hafter c hc
      · rw [List.mem_singleton.1 hc]
        rfl
    have hnot := notMem_of_isBlank hblank
    constructor
    · rintro rfl
      exact hnot List.mem_cons_self
    · rintro (rfl | rfl) <;> exact hnot (by decide)
  rw [hcs, List.append_assoc, List.append_assoc, scan_of_notMem hopen]
  exact List.mem_append_right _ (mem_scan_append hq hmore hmem)

end Token

end ServiceClause
