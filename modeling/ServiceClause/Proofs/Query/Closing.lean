import ServiceClause.Proofs.Query.Completeness
import ServiceClause.Proofs.Query.InlineRoundTrip
import ServiceClause.Proofs.Query.Splicing
import ServiceClause.Query.Pattern

/-!
# The end of a rendered pattern

A rendered pattern ends with a space and a closing brace, after which inline data may stand. Both
are read as syntax, unless the pattern ends with a comment: its line break is trimmed, so that the
comment takes in the brace and what comes after it. Besides, three quotes in the pattern that are an
empty string and the beginning of another one become a long string if three more come after the
brace.

## Main definitions

* `ServiceClause.PatternQuery.beginning` — what stands before the pattern.
* `ServiceClause.Token.Sealed` — a text that is read alone whatever comes after it.
* `ServiceClause.Token.EndsInComment` — a text whose last piece is a comment.
* `ServiceClause.Token.TriplesQuote` — a text with an empty string and a third quote after it.

## Main statements

* `ServiceClause.Token.scan_append_close_iff` — when a closing brace is read as syntax.
* `ServiceClause.PatternQuery.render_closes_iff` — when a rendered pattern is closed.
-/

set_option autoImplicit false

namespace ServiceClause

namespace Token

variable {q c : Char} {cs rest more tail text : List Char} {piece : Token}

/-! ## Texts that are read alone -/

/-- The pieces of the text do not depend on what comes after it. -/
def Sealed (cs : List Char) : Prop := ∀ more, scan (cs ++ more) = scan cs ++ scan more

theorem sealed_of_scan (pieces : List Token) (h : ∀ more, scan (cs ++ more) = pieces ++ scan more) :
    Sealed cs := by
  have hcs : scan cs = pieces := by simpa using h []
  intro more
  rw [h, hcs]

theorem Sealed.append (h : Sealed cs) (hrest : Sealed rest) : Sealed (cs ++ rest) := by
  intro more
  rw [List.append_assoc, h, hrest, h, List.append_assoc]

theorem sealed_of_notMem (h : ∀ c ∈ cs, c ∉ opening) : Sealed cs :=
  sealed_of_scan _ (scan_of_notMem h)

theorem sealed_of_all (h : cs.all (fun c => !opening.contains c) = true) : Sealed cs :=
  sealed_of_scan _ (scan_of_all h)

theorem sealed_openBrace : Sealed ['\x7b'] := by
  refine sealed_of_scan [openBrace] fun more => ?_
  have hfirst : first '\x7b' ([] ++ more) = (openBrace, ([] : List Char).length) := rfl
  exact scan_of_first hfirst

theorem sealed_iri (h : IsIriText cs) : Sealed ('<' :: (cs ++ ['>'])) := by
  refine sealed_of_scan [iri ('<' :: (cs ++ ['>']))] fun more => ?_
  rw [List.cons_append, List.append_assoc, List.singleton_append]
  exact scan_iri h more

theorem isWord_space : isWord ' ' = false := by decide +kernel

theorem sealed_variable (h : IsWordText cs) : Sealed ('?' :: (cs ++ [' '])) := by
  refine sealed_of_scan [var '?' cs, other ' '] fun more => ?_
  have hend : (' ' :: more).takeWhile isWord = [] := by simp [isWord_space]
  have hspace := @scan_of_all [' '] (by decide) more
  rw [List.cons_append, List.append_assoc, List.singleton_append,
    scan_variable (.inl rfl) h.1 h.2 hend]
  exact congrArg (var '?' cs :: ·) hspace

theorem sealed_flatten {parts : List (List Char)} (h : ∀ part ∈ parts, Sealed part) :
    Sealed parts.flatten := by
  induction parts with
  | nil => exact sealed_of_notMem fun c hc => absurd hc List.not_mem_nil
  | cons part parts ih =>
    rw [List.flatten_cons]
    exact (h part List.mem_cons_self).append
      (ih fun other hmem => h other (List.mem_cons_of_mem _ hmem))

/-! ## A closing brace -/

/-- The last piece of the text is a comment. -/
def EndsInComment (cs : List Char) : Prop := ∃ text, (scan cs).getLast? = some (comment text)

/-- The text has an empty string of two quotes `q` and a third one after it, which opens another
string. -/
def TriplesQuote (q : Char) (cs : List Char) : Prop :=
  ∃ next back, quoted [q, q] :: quoted (q :: next) :: back <:+ scan cs

theorem EndsInComment.of_first (hfirst : first c (text ++ rest) = (piece, text.length))
    (h : EndsInComment rest) : EndsInComment (c :: (text ++ rest)) := by
  obtain ⟨last, hlast⟩ := h
  refine ⟨last, ?_⟩
  rw [scan_of_first hfirst, List.getLast?_cons, hlast]
  rfl

theorem TriplesQuote.of_first (hfirst : first c (text ++ rest) = (piece, text.length))
    (h : TriplesQuote q rest) : TriplesQuote q (c :: (text ++ rest)) := by
  obtain ⟨next, back, hsuffix⟩ := h
  refine ⟨next, back, ?_⟩
  rw [scan_of_first hfirst]
  exact hsuffix.trans (List.suffix_cons _ _)

/-- A space and a closing brace are neither quotes nor backslashes. -/
theorem longStringLength_close (hq : IsQuote q) (h : longStringLength q tail = none) :
    longStringLength q (' ' :: '\x7d' :: tail) = none ∧
      longStringLength q ('\x7d' :: tail) = none := by
  have hspace : ' ' ≠ q := by
    rcases hq with rfl | rfl <;> decide
  have hbrace : '\x7d' ≠ q := by
    rcases hq with rfl | rfl <;> decide
  have htail : longStringLength q ('\x7d' :: tail) = none := by
    rw [longStringLength_cons (by decide), if_neg fun hclose => hbrace hclose.1, h]
    rfl
  refine ⟨?_, htail⟩
  rw [longStringLength_cons (by decide), if_neg fun hclose => hspace hclose.1, htail]
  rfl

/-- A piece before a closing brace stays the same, unless it is a comment at the end or a third
quote after it begins a long string. -/
theorem first_append_close (h : Complete (c :: (text ++ rest)))
    (hfirst : first c (text ++ rest) = (piece, text.length))
    (hcomment : ¬ EndsInComment (c :: (text ++ rest)))
    (htriple : ∀ q, IsQuote q → TriplesQuote q (c :: (text ++ rest)) →
      longStringLength q tail = none) :
    first c (text ++ (rest ++ ' ' :: '\x7d' :: tail)) = (piece, text.length) := by
  have hspliced : ∀ q, IsQuote q →
      Spliced q [] (' ' :: '\x7d' :: tail) rest (rest ++ ' ' :: '\x7d' :: tail) := by
    intro q hq
    have hends : Spliced q [] (' ' :: '\x7d' :: tail) (rest ++ []) _ :=
      Spliced.ends.keepAll fun _ hhead => by rcases hq with rfl | rfl <;> simp at hhead
    rwa [List.append_nil] at hends
  refine h.first_congr hfirst (fun hc hline => ?_)
    ((hspliced '"' (.inl rfl)).name fun _ => by simp [isWord_space])
    ((hspliced '"' (.inl rfl)).iri fun _ => rfl) (fun hq _ hhead => ?_)
    fun next back hq hempty hhead hhead' hends => ?_
  · cases rest with
    | nil =>
      subst hc
      have hpiece := (Prod.mk.inj hfirst).1
      refine absurd ⟨'#' :: (text ++ []).take (commentLength (text ++ [])), ?_⟩ hcomment
      rw [scan_of_first hfirst, scan_nil, ← hpiece]
      rfl
    | cons d rest =>
      rw [List.takeWhile_cons] at hline
      rw [List.cons_append, List.takeWhile_cons]
      split at hline
      · cases hline
      · next hd => rw [if_neg hd]
  · cases rest with
    | nil => rcases hq with rfl | rfl <;> simp at hhead
    | cons d rest => exact hhead
  · have hnone := htriple c hq
      ⟨next, back, by simp only [scan_of_first hfirst, hempty, List.suffix_rfl]⟩
    obtain ⟨hclose, hclose'⟩ := longStringLength_close hq hnone
    refine (hspliced c hq).empty hq ?_ (fun _ => hclose) (fun _ => ?_) hhead hhead' hends
    · rcases hq with rfl | rfl <;> simp
    · rw [longStringLength_pair, hclose']
      rfl

theorem scan_close (tail : List Char) :
    scan (' ' :: '\x7d' :: tail) = other ' ' :: other '\x7d' :: scan tail :=
  @scan_of_all [' ', '\x7d'] (by decide) tail

/-- A closing brace after a complete text is read as syntax, and so is what comes after it, unless
the text ends with a comment or three of its quotes begin a long string now.

**Proof sketch.** Induction on the text, piece by piece: each piece stays the same
(`first_append_close`). -/
theorem scan_append_close (h : Complete cs) (hcomment : ¬ EndsInComment cs)
    (htriple : ∀ q, IsQuote q → TriplesQuote q cs → longStringLength q tail = none) :
    scan (cs ++ ' ' :: '\x7d' :: tail) = scan cs ++ other ' ' :: other '\x7d' :: scan tail := by
  induction cs using scanInduction with
  | nil =>
    rw [scan_nil]
    exact scan_close tail
  | cons c text rest piece hfirst hchars ih =>
    have hsame := first_append_close h hfirst hcomment htriple
    have hrest := ih (h.of_first hfirst).2 (fun hends => hcomment (hends.of_first hfirst))
      fun q hq htriples => htriple q hq (htriples.of_first hfirst)
    rw [List.cons_append, List.append_assoc, scan_of_first hsame, hrest, scan_of_first hfirst]
    rfl

/-- A comment goes on over a closing brace after it. -/
theorem not_endsInComment_of_scan
    (h : scan (cs ++ ' ' :: '\x7d' :: tail) = scan cs ++ scan (' ' :: '\x7d' :: tail)) :
    ¬ EndsInComment cs := by
  rintro ⟨text, hlast⟩
  obtain ⟨front, hfront⟩ := List.getLast?_eq_some_iff.1 hlast
  rw [hfront, List.append_assoc] at h
  have hscan := scan_of_append h
  simp only [List.flatMap_append, List.flatMap_singleton, chars, flatMap_chars_scan] at hscan
  cases text with
  | nil =>
    rw [List.nil_append, scan_close] at hscan
    cases hscan
  | cons c body =>
    rw [List.cons_append, scan_cons, List.singleton_append, List.cons.injEq] at hscan
    obtain rfl := eq_hash_of_first hscan.1
    have hbody : (body ++ ' ' :: '\x7d' :: tail).takeWhile (· != '\n') = body := by
      rw [List.prefix_iff_eq_take.1 (List.takeWhile_prefix _)]
      exact (List.cons.inj (Token.comment.inj hscan.1)).2
    have hline := (length_takeWhile_append_iff.1 (congrArg List.length hbody)).2
    simp at hline

/-- Where a closing brace is read as syntax, no long string ends after it that three quotes of the
text before it would begin. -/
theorem longStringLength_of_scan_append (hq : IsQuote q)
    (h : scan (cs ++ ' ' :: '\x7d' :: tail) = scan cs ++ scan (' ' :: '\x7d' :: tail))
    (htriple : TriplesQuote q cs) : longStringLength q tail = none := by
  obtain ⟨next, back, front, hfront⟩ := htriple
  have hbrace : '\x7d' ≠ q := by
    rcases hq with rfl | rfl <;> decide
  rw [← hfront, List.append_assoc] at h
  have hscan := scan_of_append h
  rw [List.cons_append, List.cons_append, List.flatMap_cons, List.flatMap_cons, List.flatMap_append,
    flatMap_chars_scan] at hscan
  have hnone : longStringLength q (next ++ (back.flatMap chars ++ ' ' :: '\x7d' :: tail)) = none :=
    longStringLength_of_scan hq hscan
  rw [← List.append_assoc] at hnone
  rcases longStringLength_of_append hnone with hnone | hnone
  · exact longStringLength_tail (by decide) (longStringLength_tail (by decide) hnone)
  · exact longStringLength_tail (by decide) hnone

/-- When a closing brace after a complete text is read as syntax. -/
theorem scan_append_close_iff (h : Complete cs) :
    scan (cs ++ ' ' :: '\x7d' :: tail) = scan cs ++ other ' ' :: other '\x7d' :: scan tail ↔
      ¬ EndsInComment cs ∧
        ∀ q, IsQuote q → TriplesQuote q cs → longStringLength q tail = none := by
  refine ⟨fun hscan => ?_, fun hcs => scan_append_close h hcs.1 hcs.2⟩
  rw [← scan_close] at hscan
  exact ⟨not_endsInComment_of_scan hscan, fun q hq => longStringLength_of_scan_append hq hscan⟩

end Token

/-! ## Rendered patterns -/

namespace PatternQuery

variable {names : List (List Char)} {projection : NameSet} {q : PatternQuery}

/-- What stands before the pattern: the prefixes and the variables to select. -/
def beginning (q : PatternQuery) (projection : NameSet) : String :=
  String.join (q.prefixes.map prefixLine) ++ "SELECT " ++ selection projection ++ " WHERE \x7b "

theorem toList_render (q : PatternQuery) (projection : NameSet) : (q.render projection).toList =
    (q.beginning projection).toList ++ (trimBlanks q.pattern.toList ++ [' ', '\x7d']) := by
  simp [render, beginning]

theorem notMem_opening_of_isWord {c : Char} (h : isWord c = true) : c ∉ Token.opening :=
  Token.notMem_of_all (by decide +kernel) h

theorem sealed_prefixLine {declaration : String × String}
    (hname : ∀ c ∈ declaration.1.toList, isWord c = true) (hiri : IsIriText declaration.2.toList) :
    Token.Sealed (prefixLine declaration).toList := by
  have hname : Token.Sealed declaration.1.toList :=
    Token.sealed_of_notMem fun c hc => notMem_opening_of_isWord (hname c hc)
  have hkeyword : Token.Sealed "PREFIX ".toList := Token.sealed_of_all (by decide)
  have hcolon : Token.Sealed ": ".toList := Token.sealed_of_all (by decide)
  have hline : Token.Sealed ['\n'] := Token.sealed_of_all (by decide)
  have hall := (((hkeyword.append hname).append hcolon).append (Token.sealed_iri hiri)).append hline
  simpa [prefixLine] using hall

theorem sealed_names (hne : names ≠ []) (h : ∀ n ∈ names, IsWordText n) :
    Token.Sealed ([' '].intercalate (names.map ('?' :: ·)) ++ [' ']) := by
  induction names with
  | nil => exact absurd rfl hne
  | cons n names ih =>
    have hn := Token.sealed_variable (h n List.mem_cons_self)
    cases names with
    | nil => simpa using hn
    | cons m names =>
      have hrest := ih (by simp) fun o ho => h o (List.mem_cons_of_mem _ ho)
      simpa [List.intercalate_cons_cons] using hn.append hrest

theorem sealed_selection (h : ∀ n ∈ projection, IsWordText n.toList) :
    Token.Sealed ((selection projection).toList ++ [' ']) := by
  rw [selection]
  split
  · exact Token.sealed_of_all (by decide)
  · next hempty =>
    have hne : projection.toList.map String.toList ≠ [] := by simpa [NameSet.isEmpty] using hempty
    have hsealed := sealed_names hne fun n hn => by
      obtain ⟨m, hm, rfl⟩ := List.mem_map.1 hn
      exact h m hm
    simpa [String.toList_intercalate, Function.comp_def] using hsealed

/-- What stands before the pattern is read alone. -/
theorem sealed_beginning
    (hprefixes : ∀ p ∈ q.prefixes, (∀ c ∈ p.1.toList, isWord c = true) ∧ IsIriText p.2.toList)
    (hnames : ∀ n ∈ projection, IsWordText n.toList) :
    Token.Sealed (q.beginning projection).toList := by
  have hlines : Token.Sealed (String.join (q.prefixes.map prefixLine)).toList := by
    rw [String.toList_join, List.flatMap_def, List.map_map]
    refine Token.sealed_flatten fun part hpart => ?_
    obtain ⟨p, hp, rfl⟩ := List.mem_map.1 hpart
    exact sealed_prefixLine (hprefixes p hp).1 (hprefixes p hp).2
  have hselect : Token.Sealed "SELECT ".toList := Token.sealed_of_all (by decide)
  have hwhere : Token.Sealed "WHERE ".toList := Token.sealed_of_all (by decide)
  have hspace : Token.Sealed [' '] := Token.sealed_of_all (by decide)
  have hall := (hlines.append hselect).append ((sealed_selection hnames).append
    (hwhere.append (Token.sealed_openBrace.append hspace)))
  simpa [beginning] using hall

/-- **A rendered pattern is closed unless it ends with a comment.** Take prefixes of word characters
with IRIs, words to select, and a pattern that is complete before a line break. The space and the
closing brace after the pattern, and whatever comes after them, such as inline data, are read as
they are read alone, if and only if the pattern does not end with a comment and no long string ends
after the brace that three quotes in the pattern would begin. By itself a rendered pattern that does
not end with a comment is always closed.

**Proof sketch.** What stands before the pattern is read alone (`sealed_beginning`). The pattern
without the white space at its ends is complete (`Token.Complete.trim`), so the brace after it is
syntax in these cases (`Token.scan_append_close_iff`). -/
theorem render_closes_iff (q : PatternQuery) (projection : NameSet) (tail : String)
    (hprefixes : ∀ p ∈ q.prefixes, (∀ c ∈ p.1.toList, isWord c = true) ∧ IsIriText p.2.toList)
    (hnames : ∀ n ∈ projection, IsWordText n.toList)
    (hcomplete : Token.Complete (q.pattern ++ "\n").toList) :
    Token.scan (q.render projection ++ tail).toList =
        Token.scan (q.beginning projection ++ trim q.pattern).toList ++
          .other ' ' :: .other '\x7d' :: Token.scan tail.toList ↔
      ¬ Token.EndsInComment (trim q.pattern).toList ∧
        ∀ quote, Token.IsQuote quote → Token.TriplesQuote quote (trim q.pattern).toList →
          Token.longStringLength quote tail.toList = none := by
  have hbeginning := sealed_beginning hprefixes hnames
  have htrim : Token.Complete (trim q.pattern).toList := by
    rw [String.toList_append] at hcomplete
    rw [toList_trim]
    exact hcomplete.trim
  rw [← Token.scan_append_close_iff htrim, String.toList_append, toList_render, List.append_assoc,
    hbeginning, String.toList_append, hbeginning, toList_trim, List.append_assoc, List.append_assoc,
    List.append_cancel_left_eq]
  rfl

/-- A pattern with the prefix that it uses. -/
def named : PatternQuery := ⟨[("ex", "http://example.org/")], "?s ex:name ?name . "⟩

/-- Inline data after a pattern. -/
def inlineSubject : String :=
  " VALUES (?__rowIdx ?s) \x7b  (\"0\" <http://example.org/'''> ) \x7d"

theorem render_closes_named :
    Token.scan (named.render (.ofList ["name"]) ++ inlineSubject).toList =
      Token.scan (named.beginning (.ofList ["name"]) ++ trim named.pattern).toList ++
        .other ' ' :: .other '\x7d' :: Token.scan inlineSubject.toList := by
  refine (render_closes_iff named (.ofList ["name"]) inlineSubject ?_ ?_ ?_).2 ⟨?_, ?_⟩
  · intro p hp
    obtain rfl := List.mem_singleton.1 hp
    exact ⟨List.all_eq_true.1 (by decide +kernel), by decide +kernel⟩
  · decide +kernel
  · rintro quote (rfl | rfl) <;> decide +kernel
  · rintro ⟨text, hlast⟩
    have hdot : (Token.scan (trim named.pattern).toList).getLast? = some (.other '.') := by
      decide +kernel
    rw [hdot] at hlast
    cases hlast
  · rintro quote (rfl | rfl) ⟨next, back, hsuffix⟩ <;>
      exact absurd (hsuffix.subset List.mem_cons_self) (by decide +kernel)

/-- A pattern that ends with a comment. -/
def commented : PatternQuery := ⟨[], "?s ?p ?o # all"⟩

/-- The comment takes in the closing brace and inline data. -/
theorem comment_takes_brace : Token.Complete (commented.pattern ++ "\n").toList ∧
    (Token.scan (commented.render .empty).toList).getLast? =
      some (.comment "# all \x7d".toList) ∧
    (Token.scan (commented.render .empty ++ inlineSubject).toList).getLast? =
      some (.comment ("# all \x7d" ++ inlineSubject).toList) := by
  refine ⟨?_, by decide +kernel, by decide +kernel⟩
  rintro quote (rfl | rfl) <;> decide +kernel

end PatternQuery

end ServiceClause
