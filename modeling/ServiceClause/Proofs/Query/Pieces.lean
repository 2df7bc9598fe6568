import ServiceClause.Query.Token
import ServiceClause.Text.Regex

/-!
# Scanning cuts a query at its matches

The pieces of a query are described by regular expressions: strings between three quotes or one,
IRIs, comments, opening braces and variables, in this order of preference. A text is cut at its
successive leftmost matches; what stands between them falls apart into single characters. Scanning
does so: it takes the preferred match wherever there is one.

## Main definitions

* `ServiceClause.Token.alternatives` — the expressions of the pieces.
* `ServiceClause.Token.found?` — the preferred match at the beginning of a text.
* `ServiceClause.Token.Cut` — a text cut at its successive matches.

## Main statements

* `ServiceClause.Token.found?_cons` — what is found, by the first character.
* `ServiceClause.Token.cut_iff` — the pieces that a text is cut into are those of its scan.
-/

set_option autoImplicit false

namespace ServiceClause

namespace Token

/-! ## The expressions of the pieces -/

/-- A backslash with the character after it, or a character of the given class. -/
def unit (plain : Char → Bool) : Regex :=
  .alt (.seq (.char '\\') (.one fun _ => true)) (.one plain)

/-- Whether a character may stand by itself in a string between three quotes. -/
def isLongPlain (c : Char) : Bool := c != '\\'

/-- Whether a character may stand by itself in a string between single quotes `q`. -/
def isShortPlain (q c : Char) : Bool := !([q, '\\', '\n', '\r'].contains c)

/-- Whether a character may stand in an IRI. -/
def isIriPlain (c : Char) : Bool :=
  !("<>\"\x7b\x7d|^`\\".toList.contains c || c.toNat ≤ 0x20)

/-- What follows the opening quotes of a string between three quotes `q`, which the next three of
them end. -/
def longRest (q : Char) : Regex :=
  .seq (.few (unit isLongPlain)) (.seq (.char q) (.seq (.char q) (.char q)))

/-- A string between three quotes `q`. -/
def longString (q : Char) : Regex :=
  .seq (.char q) (.seq (.char q) (.seq (.char q) (longRest q)))

/-- What follows the opening quote of a string between single quotes `q`. -/
def shortRest (q : Char) : Regex :=
  .seq (.many (unit (isShortPlain q))) (.char q)

/-- A string between single quotes `q`. -/
def shortString (q : Char) : Regex := .seq (.char q) (shortRest q)

/-- What follows the opening bracket of an IRI. -/
def iriRest : Regex := .seq (.many (.one isIriPlain)) (.char '>')

/-- The expressions of the pieces, the preferred one first, with the pieces that they make of the
characters that they take. -/
def alternatives : List (Regex × (List Char → Token)) :=
  [(longString '"', quoted), (longString '\'', quoted),
    (shortString '"', quoted), (shortString '\'', quoted),
    (.seq (.char '<') iriRest, iri),
    (.seq (.char '#') (.many (.one (· != '\n'))), comment),
    (.char '\x7b', fun _ => openBrace),
    (.seq (.one fun c => c == '?' || c == '$') (.seq (.one isWord) (.many (.one isWord))),
      fun cs => var (cs.headD '?') cs.tail)]

/-- The number of characters and the piece of the preferred match at the beginning of a text. -/
def found? (cs : List Char) : Option (Nat × Token) :=
  alternatives.findSome? fun a => (a.1.preferred? cs).map fun n => (n, a.2 (cs.take n))

/-- The text is cut into these pieces at its successive leftmost matches. -/
inductive Cut : List Char → List Token → Prop where
  /-- Nothing is left. -/
  | nil : Cut [] []
  /-- The next piece is the preferred match. -/
  | found {cs : List Char} {n : Nat} {piece : Token} {rest : List Token}
    (hfound : found? cs = some (n, piece)) (hrest : Cut (cs.drop n) rest) : Cut cs (piece :: rest)
  /-- Nothing matches here, so the next character is a piece by itself. -/
  | unmatched {c : Char} {cs : List Char} {rest : List Token} (hnone : found? (c :: cs) = none)
    (hrest : Cut cs rest) : Cut (c :: cs) (other c :: rest)

/-! ## How far the expressions reach -/

section

open Regex

variable {plain : Char → Bool} {q c d : Char} {cs : List Char}

theorem lengths_unit_escape (h : plain '\\' = false) :
    (unit plain).lengths ('\\' :: c :: cs) = [2] := by
  simp [unit, char, lengths, h]

theorem lengths_unit_plain (hc : c ≠ '\\') :
    (unit plain).lengths (c :: cs) = if plain c then [1] else [] := by
  simp [unit, char, lengths, hc]

theorem lengths_unit_end (h : plain '\\' = false)
    (hend : ∀ d rest, c = '\\' → cs = d :: rest → False) (hplain : plain c = false) :
    (unit plain).lengths (c :: cs) = [] := by
  by_cases hc : c = '\\'
  · cases cs with
    | nil => simp [unit, char, lengths, hc, h]
    | cons d rest => exact (hend d rest hc rfl).elim
  · rw [lengths_unit_plain hc, hplain]
    rfl

theorem lengths_unit_nil : (unit plain).lengths [] = [] := by
  simp [unit, char, lengths]

theorem preferred?_char_cons :
    (Regex.char q).preferred? (c :: cs) = if c = q then some 1 else none := by
  rw [Regex.char, preferred?_one_cons]
  simp

theorem preferred?_seq_char_cons {r : Regex} : (Regex.seq (.char q) r).preferred? (c :: cs) =
    if c = q then (r.preferred? cs).map (· + 1) else none := by
  rw [Regex.char, preferred?_seq_one_cons]
  simp

theorem preferred?_seq_char_nil {r : Regex} : (Regex.seq (.char q) r).preferred? [] = none :=
  preferred?_eq_none_of_lengths lengths_seq_one_nil

theorem preferred?_char_nil : (Regex.char q).preferred? [] = none := by
  rw [Regex.char, preferred?, lengths_one_nil, List.head?_nil]

theorem isIriPlain_eq : isIriPlain c = !iriExcludes c := by
  rw [isIriPlain, iriExcludes, Bool.or_comm]

/-- A string between single quotes reaches as far as it is scanned. -/
theorem preferred?_shortRest (hq : q ≠ '\\') (cs : List Char) :
    (shortRest q).preferred? cs = shortStringLength q cs := by
  unfold shortRest
  have hescape : isShortPlain q '\\' = false := by simp [isShortPlain]
  fun_induction shortStringLength q cs with
  | case1 d rest ih =>
    rw [preferred?_seq_many_of_unit (lengths_unit_escape hescape) (by omega) (by simp),
      preferred?_char_cons, if_neg (Ne.symm hq), Option.or_none]
    exact congrArg _ ih
  | case2 rest hend =>
    have hplain : isShortPlain q q = false := by simp [isShortPlain]
    rw [preferred?_seq_many_of_nil (lengths_unit_end hescape hend hplain),
      preferred?_char_cons, if_pos rfl]
  | case3 c rest hend hc hbreak =>
    have hplain : isShortPlain q c = false := by simp [isShortPlain, hbreak]
    rw [preferred?_seq_many_of_nil (lengths_unit_end hescape hend hplain),
      preferred?_char_cons, if_neg hc]
  | case4 c rest hend hc hbreak ih =>
    have hplain : isShortPlain q c = true := by simp_all [isShortPlain]
    have hunit : (unit (isShortPlain q)).lengths (c :: rest) = [1] := by
      rw [lengths_unit_plain fun h => hbreak (.inl h), if_pos hplain]
    rw [preferred?_seq_many_of_unit hunit (by omega) (by simp), preferred?_char_cons, if_neg hc,
      Option.or_none]
    exact congrArg _ ih
  | case5 =>
    rw [preferred?_seq_many_of_nil lengths_unit_nil, preferred?_char_nil]

theorem preferred?_threeQuotes :
    (Regex.seq (.char q) (.seq (.char q) (.char q))).preferred? (c :: cs) =
      if c = q ∧ cs.take 2 = [q, q] then some 3 else none := by
  rw [preferred?_seq_char_cons]
  match cs with
  | [] => simp [Regex.char, preferred?, lengths]
  | [d] => simp [preferred?_seq_char_cons, preferred?_char_nil]
  | d :: e :: rest =>
    rw [preferred?_seq_char_cons, preferred?_char_cons]
    by_cases hc : c = q <;> by_cases hd : d = q <;> by_cases he : e = q <;> simp [hc, hd, he]

/-- A string between three quotes reaches as far as it is scanned. -/
theorem preferred?_longRest (hq : q ≠ '\\') (cs : List Char) :
    (longRest q).preferred? cs = longStringLength q cs := by
  unfold longRest
  have hescape : isLongPlain '\\' = false := rfl
  fun_induction longStringLength q cs with
  | case1 d rest ih =>
    rw [preferred?_seq_few_of_unit (lengths_unit_escape hescape) (by omega) (by simp),
      preferred?_threeQuotes, if_neg (fun h => hq h.1.symm), Option.none_or]
    exact congrArg _ ih
  | case2 c rest hend hclose =>
    exact preferred?_seq_few_of_some (by rw [preferred?_threeQuotes, if_pos hclose])
  | case3 rest hend hclose =>
    rw [preferred?_seq_few_of_nil (lengths_unit_end hescape hend hescape), preferred?_threeQuotes,
      if_neg hclose]
  | case4 c rest hend hclose hc ih =>
    have hunit : (unit isLongPlain).lengths (c :: rest) = [1] := by
      rw [lengths_unit_plain hc, if_pos (by simpa [isLongPlain] using hc)]
    rw [preferred?_seq_few_of_unit hunit (by omega) (by simp), preferred?_threeQuotes,
      if_neg hclose, Option.none_or]
    exact congrArg _ ih
  | case5 =>
    rw [preferred?_seq_few_of_nil lengths_unit_nil, preferred?_seq_char_nil]

/-- An IRI reaches as far as it is scanned. -/
theorem preferred?_iriRest (cs : List Char) : iriRest.preferred? cs = iriLength cs := by
  unfold iriRest
  fun_induction iriLength cs with
  | case1 rest =>
    rw [preferred?_seq_many_of_nil (by rw [lengths_one_cons]; decide), preferred?_char_cons,
      if_pos rfl]
  | case2 c rest hc hexcluded =>
    have hunit : (one isIriPlain).lengths (c :: rest) = [] := by
      rw [lengths_one_cons, isIriPlain_eq, hexcluded]
      rfl
    rw [preferred?_seq_many_of_nil hunit, preferred?_char_cons, if_neg hc]
  | case3 c rest hc hexcluded ih =>
    have hunit : (one isIriPlain).lengths (c :: rest) = [1] := by
      rw [lengths_one_cons, isIriPlain_eq, if_pos (by simpa using hexcluded)]
    rw [preferred?_seq_many_of_unit hunit (by omega) (by simp), preferred?_char_cons, if_neg hc,
      Option.or_none]
    exact congrArg _ ih
  | case4 => rw [preferred?_seq_many_of_nil lengths_one_nil, preferred?_char_nil]

/-- A name reaches as far as it is scanned. -/
theorem preferred?_name (cs : List Char) :
    (Regex.seq (.one isWord) (.many (.one isWord))).preferred? cs = variableLength cs := by
  unfold variableLength
  cases cs with
  | nil => exact preferred?_eq_none_of_lengths lengths_seq_one_nil
  | cons c cs =>
    rw [preferred?_seq_one_cons, preferred?_many_one]
    cases hword : isWord c <;> simp [hword]

/-- A string reaches as far as it is scanned: between three quotes if it can be read so. -/
theorem preferred?_string (hq : q ≠ '\\') (cs : List Char) :
    ((longString q).preferred? (q :: cs)).or ((shortString q).preferred? (q :: cs)) =
      (stringLength q cs).map (· + 1) := by
  have hlong : (Regex.seq (.char q) (.seq (.char q) (longRest q))).preferred? cs =
      if cs.take 2 = [q, q] then (longStringLength q (cs.drop 2)).map (· + 2) else none := by
    match cs with
    | [] => exact preferred?_seq_char_nil
    | [d] =>
      rw [preferred?_seq_char_cons, preferred?_seq_char_nil]
      simp
    | d :: e :: rest =>
      rw [preferred?_seq_char_cons, preferred?_seq_char_cons, preferred?_longRest hq]
      by_cases hd : d = q <;> by_cases he : e = q <;> simp [hd, he, Function.comp_def]
  rw [longString, shortString, preferred?_seq_char_cons, preferred?_seq_char_cons, if_pos rfl,
    if_pos rfl, hlong, preferred?_shortRest hq, ← Option.map_or, stringLength]
  split <;> cases longStringLength q (cs.drop 2) <;> rfl

/-- No string begins with another character. -/
theorem preferred?_string_of_ne (hc : c ≠ q) (cs : List Char) :
    (longString q).preferred? (c :: cs) = none ∧ (shortString q).preferred? (c :: cs) = none := by
  rw [longString, shortString, preferred?_seq_char_cons, preferred?_seq_char_cons, if_neg hc]
  exact ⟨rfl, if_neg hc⟩

end

/-! ## What is found -/

theorem found?_nil : found? [] = none := by
  simp [found?, alternatives, Regex.preferred?, longString, shortString, Regex.char, Regex.lengths]

/-- What is found is decided by the first character. -/
theorem found?_cons (c : Char) (cs : List Char) : found? (c :: cs) =
    if c = '"' ∨ c = '\'' then (stringLength c cs).map fun n => (n + 1, quoted (c :: cs.take n))
    else if c = '<' then (iriLength cs).map fun n => (n + 1, iri (c :: cs.take n))
    else if c = '#' then some (commentLength cs + 1, comment (c :: cs.take (commentLength cs)))
    else if c = '\x7b' then some (1, openBrace)
    else if c = '?' ∨ c = '$' then (variableLength cs).map fun n => (n + 1, var c (cs.take n))
    else none := by
  have hor : ∀ (f : Regex × (List Char → Token) → Option (Nat × Token)) a l,
      (a :: l).findSome? f = (f a).or (l.findSome? f) := by
    intro f a l
    cases h : f a <;> simp [h]
  have hstring : ∀ q, q ≠ '\\' → c = q →
      (((longString q).preferred? (c :: cs)).map fun n => (n, quoted ((c :: cs).take n))).or
        (((shortString q).preferred? (c :: cs)).map fun n => (n, quoted ((c :: cs).take n))) =
      (stringLength c cs).map fun n => (n + 1, quoted (c :: cs.take n)) := by
    rintro q hq rfl
    rw [← Option.map_or, preferred?_string hq, Option.map_map]
    rfl
  simp only [found?, alternatives, hor, List.findSome?_nil, Option.or_none,
    preferred?_seq_char_cons, preferred?_char_cons, Regex.preferred?_seq_one_cons]
  by_cases hdouble : c = '"'
  · have hother : c ≠ '\'' := by
      rw [hdouble]
      decide
    have hsingle := preferred?_string_of_ne hother cs
    rw [← hstring '"' (by decide) hdouble, hsingle.1, hsingle.2]
    simp [hdouble]
  by_cases hsingle : c = '\''
  · obtain ⟨hlong, hshort⟩ := preferred?_string_of_ne hdouble cs
    rw [← hstring '\'' (by decide) hsingle, hlong, hshort]
    simp [hsingle]
  obtain ⟨hlong, hshort⟩ := preferred?_string_of_ne hdouble cs
  obtain ⟨hlong', hshort'⟩ := preferred?_string_of_ne hsingle cs
  simp only [hlong, hshort, hlong', hshort', hdouble, hsingle, or_self, if_false, Option.map_none,
    Option.none_or, preferred?_iriRest, preferred?_name, Regex.preferred?_many_one]
  by_cases hiri : c = '<'
  · simp [hiri, Function.comp_def]
  by_cases hcomment : c = '#'
  · simp [hcomment, commentLength]
  by_cases hbrace : c = '\x7b'
  · simp [hbrace]
  simp only [hiri, hcomment, hbrace, if_false, Option.map_none, Option.none_or, Bool.or_eq_true,
    beq_iff_eq]
  split
  · rw [Option.map_map]
    rfl
  · rfl

/-- The piece that is scanned is the preferred match, or a character where nothing matches. -/
theorem found?_cases (c : Char) (cs : List Char) :
    found? (c :: cs) = some ((first c cs).2 + 1, (first c cs).1) ∨
      found? (c :: cs) = none ∧ first c cs = (other c, 0) := by
  have hopened : ∀ (build : List Char → Token) (length? : Option Nat),
      (length?.map fun n => (n + 1, build (cs.take n))) =
          some ((opened c cs build length?).2 + 1, (opened c cs build length?).1) ∨
        (length?.map fun n => (n + 1, build (cs.take n))) = none ∧
          opened c cs build length? = (other c, 0) := by
    intro build length?
    cases length? with
    | none => exact .inr ⟨rfl, rfl⟩
    | some n => exact .inl rfl
  rw [found?_cons, first]
  split
  · exact hopened (fun rest => quoted (c :: rest)) _
  · split
    · exact hopened (fun rest => iri (c :: rest)) _
    · split
      · exact .inl rfl
      · split
        · exact .inl rfl
        · split
          · exact hopened (var c) _
          · exact .inr ⟨rfl, rfl⟩

/-! ## Main result of the scan -/

/-- A text is cut into the pieces of its scan.

**Proof sketch.** Induction on the scan: each piece is what is found where it begins. -/
theorem cut_scan (cs : List Char) : Cut cs (scan cs) := by
  fun_induction scan cs with
  | case1 => exact .nil
  | case2 c cs ih =>
    rcases found?_cases c cs with hfound | ⟨hnone, hfirst⟩
    · exact .found hfound ih
    · rw [hfirst] at ih ⊢
      exact .unmatched hnone ih

/-- The pieces into which a text is cut at its successive leftmost matches are those of its scan.

**Proof sketch.** What is found at the beginning of a text is unique, so by induction the pieces
are. -/
theorem cut_iff {cs : List Char} {pieces : List Token} : Cut cs pieces ↔ pieces = scan cs := by
  constructor
  · intro h
    induction h with
    | nil => rw [scan_nil]
    | @found cs n piece rest hfound hrest ih =>
      cases cs with
      | nil => simp [found?_nil] at hfound
      | cons c cs =>
        rcases found?_cases c cs with hfirst | ⟨hnone, _⟩
        · rw [hfirst, Option.some.injEq, Prod.mk.injEq] at hfound
          obtain ⟨rfl, rfl⟩ := hfound
          rw [scan_cons, ih, List.drop_succ_cons]
        · rw [hnone] at hfound
          cases hfound
    | @unmatched c cs rest hnone hrest ih =>
      rcases found?_cases c cs with hfirst | ⟨_, hfirst⟩
      · rw [hnone] at hfirst
        cases hfirst
      · rw [scan_cons, hfirst, ih, List.drop_zero]
  · rintro rfl
    exact cut_scan cs

end Token

end ServiceClause
