import Mathlib.Data.List.Forall2
import ServiceClause.Proofs.Query.InlineRoundTrip
import ServiceClause.Proofs.Query.Places
import ServiceClause.Query.Base

/-!
# Declarations of a base

A query declares a base by the word `BASE` and an IRI, wherever they stand among its pieces. Whether
it gets the declaration of another base is decided without its pieces: by whether one of its lines
begins with something that resembles a declaration. The two agree where declarations begin a line
and nothing else resembles one.

## Main definitions

* `ServiceClause.Declares` — whether there is a declaration among the pieces of a text.
* `ServiceClause.LineDeclares` — whether there is one that begins its line.
* `ServiceClause.Misread` — whether a line resembles a declaration and begins with none.

## Main statements

* `ServiceClause.declaresBase_iff` — when a line begins with something that resembles a declaration.
* `ServiceClause.withBase_unless_line_declares` — which queries get the declaration of a base.
-/

set_option autoImplicit false

namespace ServiceClause

/-! ## Declarations -/

/-- Whether a character continues a word, the name of a variable or a prefixed name. -/
def isNamePart (c : Char) : Bool := isWord c || ":-.%\\\u00b7".toList.contains c

/-- Whether characters spell the word `BASE` in any case. -/
def SpellsBase (word : List Char) : Prop :=
  List.Forall₂ (fun c lower => c = lower ∨ c = lower.toUpper) word ['b', 'a', 's', 'e']

/-- A base is declared after the characters `before` of a text: the word `BASE`, not part of a
longer name, white space and an IRI are pieces of the text. -/
def DeclaresAfter (before cs : List Char) : Prop :=
  ∃ pieces word blanks i later,
    Token.scan cs = pieces ++ ((word ++ blanks).map .other ++ .iri i :: later) ∧
      pieces.flatMap Token.chars = before ∧ SpellsBase word ∧ (∀ c ∈ blanks, isBlank c = true) ∧
        ∀ c, before.getLast? = some c → isNamePart c = false

/-- Whether some characters end where a line begins, white space aside. -/
def OpensLine (before : List Char) : Prop :=
  ∃ lines blanks, before = lines ++ blanks ∧ (lines = [] ∨ lines.getLast? = some '\n') ∧
    ∀ c ∈ blanks, isBlank c = true

/-- Whether a text declares a base. -/
def Declares (cs : List Char) : Prop := ∃ before, DeclaresAfter before cs

/-- Whether some declaration of a base is the first thing in its line. -/
def LineDeclares (cs : List Char) : Prop := ∃ before, OpensLine before ∧ DeclaresAfter before cs

/-- Whether characters resemble the word `BASE`: the long s passes for a small letter s. -/
def ResemblesBase (word : List Char) : Prop :=
  List.Forall₂ (fun c lower => c = lower ∨ c = lower.toUpper ∨ lower = 's' ∧ c = '\u017f') word
    ['b', 'a', 's', 'e']

/-- Whether the place after the characters `before` of a text lies inside a string. -/
def InsideString (before cs : List Char) : Prop :=
  ∃ pieces text later inner, Token.scan cs = pieces ++ .quoted text :: later ∧
    before = pieces.flatMap Token.chars ++ inner ∧ inner ≠ [] ∧ inner.length < text.length

/-- Whether a line begins with something that resembles the declaration of a base and is none: it
lies inside a string, or no IRI follows, or the word has a long s. -/
def Misread (cs : List Char) : Prop :=
  ∃ before word blanks rest, cs = before ++ (word ++ (blanks ++ '<' :: rest)) ∧ OpensLine before ∧
    ResemblesBase word ∧ (∀ c ∈ blanks, isBlank c = true) ∧
      (InsideString before cs ∨ (∀ i after, rest = i ++ '>' :: after → ¬ IsIriText i) ∨
        '\u017f' ∈ word)

variable {cs before word blanks rest : List Char} {c : Char}

/-! ## Words and white space -/

theorem isLetterFold_iff {lower : Char} : isLetterFold lower c = true ↔
    c = lower ∨ c = lower.toUpper ∨ lower = 's' ∧ c = '\u017f' := by
  have hlongS : c.toNat = 0x17f ↔ c = '\u017f' := ⟨fun h => Char.toNat_inj.1 h, fun h => h ▸ rfl⟩
  simp [isLetterFold, hlongS, or_assoc]

theorem resemblesBase_iff : ResemblesBase word ↔ ∃ b a s e, word = [b, a, s, e] ∧
    (isLetterFold 'b' b && isLetterFold 'a' a && isLetterFold 's' s && isLetterFold 'e' e) =
      true := by
  simp only [Bool.and_eq_true]
  constructor
  · rintro (_ | ⟨hb, _ | ⟨ha, _ | ⟨hs, _ | ⟨he, _ | _⟩⟩⟩⟩)
    exact ⟨_, _, _, _, rfl, ⟨⟨isLetterFold_iff.2 hb, isLetterFold_iff.2 ha⟩, isLetterFold_iff.2 hs⟩,
      isLetterFold_iff.2 he⟩
  · rintro ⟨b, a, s, e, rfl, ⟨⟨hb, ha⟩, hs⟩, he⟩
    exact .cons (isLetterFold_iff.1 hb) (.cons (isLetterFold_iff.1 ha)
      (.cons (isLetterFold_iff.1 hs) (.cons (isLetterFold_iff.1 he) .nil)))

/-- A word that resembles `BASE` spells it unless it has a long s. -/
theorem spellsBase_iff : SpellsBase word ↔ ResemblesBase word ∧ '\u017f' ∉ word := by
  constructor
  · intro h
    refine ⟨h.imp fun _ _ => Or.imp_right .inl, fun hmem => ?_⟩
    rcases h with _ | ⟨hb, _ | ⟨ha, _ | ⟨hs, _ | ⟨he, _ | _⟩⟩⟩⟩
    simp only [List.mem_cons, List.not_mem_nil, or_false] at hmem
    rcases hmem with rfl | rfl | rfl | rfl
    · exact absurd hb (by decide)
    · exact absurd ha (by decide)
    · exact absurd hs (by decide)
    · exact absurd he (by decide)
  · rintro ⟨h, hmem⟩
    have hletter : ∀ c lower, c ∈ word →
        (c = lower ∨ c = lower.toUpper ∨ lower = 's' ∧ c = '\u017f') →
          c = lower ∨ c = lower.toUpper := by
      rintro c lower hc (hc' | hc' | ⟨-, rfl⟩)
      · exact .inl hc'
      · exact .inr hc'
      · exact absurd hc hmem
    rcases h with _ | ⟨hb, _ | ⟨ha, _ | ⟨hs, _ | ⟨he, _ | _⟩⟩⟩⟩
    exact .cons (hletter _ _ (by simp) hb) (.cons (hletter _ _ (by simp) ha)
      (.cons (hletter _ _ (by simp) hs) (.cons (hletter _ _ (by simp) he) .nil)))

/-- No letter of such a word opens a longer piece. -/
theorem notMem_opening_of_resemblesBase (h : ResemblesBase word) (hc : c ∈ word) :
    c ∉ Token.opening := by
  rcases h with _ | ⟨hb, _ | ⟨ha, _ | ⟨hs, _ | ⟨he, _ | _⟩⟩⟩⟩
  simp only [List.mem_cons, List.not_mem_nil, or_false] at hc
  rcases hc with rfl | rfl | rfl | rfl
  · rcases hb with rfl | rfl | ⟨-, rfl⟩ <;> decide
  · rcases ha with rfl | rfl | ⟨-, rfl⟩ <;> decide
  · rcases hs with rfl | rfl | ⟨-, rfl⟩ <;> decide
  · rcases he with rfl | rfl | ⟨-, rfl⟩ <;> decide

/-- White space continues no name. -/
theorem isNamePart_of_isBlank (h : isBlank c = true) : isNamePart c = false := by
  have hplaces : ∀ n ∈ List.range' 9 5 ++ List.range' 0x2000 11 ++
      [0x20, 0x85, 0xa0, 0x1680, 0x2028, 0x2029, 0x202f, 0x205f, 0x3000],
        isNamePart (Char.ofNat n) = false := by decide +kernel
  have hplace := hplaces c.toNat (by
    simp only [isBlank, Bool.or_eq_true, Bool.and_eq_true, decide_eq_true_eq, beq_iff_eq] at h
    simp only [List.mem_append, List.mem_range'_1, List.mem_cons, List.not_mem_nil, or_false]
    omega)
  rwa [Char.ofNat_toNat] at hplace

/-- What ends where a line begins ends with white space. -/
theorem OpensLine.getLast? (h : OpensLine before) (hc : before.getLast? = some c) :
    isBlank c = true := by
  obtain ⟨lines, blanks, rfl, hlines, hblanks⟩ := h
  rw [List.getLast?_append] at hc
  cases hlast : blanks.getLast? with
  | some d =>
    rw [hlast, Option.some_or] at hc
    exact Option.some.inj hc ▸ hblanks d (List.mem_of_getLast? hlast)
  | none =>
    rw [hlast, Option.none_or] at hc
    rcases hlines with rfl | hlines
    · cases hc
    · obtain rfl := Option.some.inj (hc.symm.trans hlines)
      decide

/-! ## Lines -/

/-- Whether some characters are a word that resembles `BASE`, white space and an opening bracket. -/
theorem beginsWithBase_iff : beginsWithBase cs = true ↔ ∃ before word blanks rest,
    cs = before ++ (word ++ (blanks ++ '<' :: rest)) ∧ (∀ c ∈ before, isBlank c = true) ∧
      ResemblesBase word ∧ ∀ c ∈ blanks, isBlank c = true := by
  constructor
  · intro h
    unfold beginsWithBase at h
    split at h
    · next b a s e tail hcs =>
      rw [Bool.and_eq_true, beq_iff_eq] at h
      obtain ⟨rest, hrest⟩ := List.head?_eq_some_iff.1 h.2
      refine ⟨cs.takeWhile isBlank, [b, a, s, e], tail.takeWhile isBlank, rest, ?_,
        List.all_eq_true.1 List.all_takeWhile, resemblesBase_iff.2 ⟨b, a, s, e, rfl, h.1⟩,
        List.all_eq_true.1 List.all_takeWhile⟩
      rw [← hrest, List.takeWhile_append_dropWhile]
      exact (hcs ▸ List.takeWhile_append_dropWhile).symm
    · cases h
  · rintro ⟨before, word, blanks, rest, rfl, hbefore, hword, hblanks⟩
    obtain ⟨b, a, s, e, rfl, hletters⟩ := resemblesBase_iff.1 hword
    have hb : isBlank b = false := by
      simp only [Bool.and_eq_true, isLetterFold_iff] at hletters
      obtain ⟨⟨⟨rfl | rfl | ⟨hb, -⟩, -⟩, -⟩, -⟩ := hletters
      · decide
      · decide
      · cases hb
    have hdrop : ((before ++ ([b, a, s, e] ++ (blanks ++ '<' :: rest))).dropWhile isBlank) =
        b :: a :: s :: e :: (blanks ++ '<' :: rest) := by
      rw [List.dropWhile_append_of_pos hbefore, List.cons_append,
        List.dropWhile_cons_of_neg (by simp [hb])]
      rfl
    have hbracket : ((blanks ++ '<' :: rest).dropWhile isBlank).head? = some '<' := by
      rw [List.dropWhile_append_of_pos hblanks]
      rfl
    rw [beginsWithBase, hdrop]
    simp only [hletters, hbracket, Bool.true_and, beq_self_eq_true]

theorem beginsLineWithBase_iff : beginsLineWithBase cs = true ↔
    ∃ lines rest, cs = lines ++ '\n' :: rest ∧ beginsWithBase rest = true := by
  induction cs with
  | nil => simp [beginsLineWithBase]
  | cons c cs ih =>
    rw [beginsLineWithBase, Bool.or_eq_true, Bool.and_eq_true, beq_iff_eq, ih]
    constructor
    · rintro (⟨rfl, hrest⟩ | ⟨lines, rest, rfl, hrest⟩)
      · exact ⟨[], cs, rfl, hrest⟩
      · exact ⟨c :: lines, rest, rfl, hrest⟩
    · rintro ⟨_ | ⟨d, lines⟩, rest, hcs, hrest⟩
      · obtain ⟨rfl, rfl⟩ := List.cons.inj hcs
        exact .inl ⟨rfl, hrest⟩
      · obtain ⟨rfl, rfl⟩ := List.cons.inj hcs
        exact .inr ⟨lines, rest, rfl, hrest⟩

/-- The line of a declaration is found by what resembles a declaration. -/
theorem declaresBase_iff_resembles : declaresBase cs = true ↔ ∃ before word blanks rest,
    cs = before ++ (word ++ (blanks ++ '<' :: rest)) ∧ OpensLine before ∧ ResemblesBase word ∧
      ∀ c ∈ blanks, isBlank c = true := by
  rw [declaresBase, Bool.or_eq_true, beginsLineWithBase_iff]
  constructor
  · rintro (hfirst | ⟨lines, tail, rfl, htail⟩)
    · obtain ⟨before, word, blanks, rest, hcs, hbefore, hword⟩ := beginsWithBase_iff.1 hfirst
      exact ⟨before, word, blanks, rest, hcs, ⟨[], before, rfl, .inl rfl, hbefore⟩, hword⟩
    · obtain ⟨before, word, blanks, rest, rfl, hbefore, hword⟩ := beginsWithBase_iff.1 htail
      refine ⟨lines ++ '\n' :: before, word, blanks, rest, by simp, ?_, hword⟩
      exact ⟨lines ++ ['\n'], before, by simp, .inr List.getLast?_concat, hbefore⟩
  · rintro ⟨_, word, blanks, rest, rfl, ⟨lines, before, rfl, hlines, hbefore⟩, hword⟩
    have hbegins : beginsWithBase (before ++ (word ++ (blanks ++ '<' :: rest))) = true :=
      beginsWithBase_iff.2 ⟨before, word, blanks, rest, rfl, hbefore, hword⟩
    rw [List.append_assoc]
    rcases hlines with rfl | hlines
    · exact .inl hbegins
    · obtain ⟨init, rfl⟩ := List.getLast?_eq_some_iff.1 hlines
      exact .inr ⟨init, _, by simp, hbegins⟩

/-! ## Lines and pieces -/

/-- Where a line begins inside a piece, the piece is a string.

**Proof sketch.** The piece begins with none of the white space at the beginning of the line, so it
goes on after the line break. -/
theorem insideString_of_opensLine {pieces later : List Token} {piece : Token} {inner : List Char}
    (hscan : Token.scan cs = pieces ++ piece :: later)
    (hbefore : OpensLine (pieces.flatMap Token.chars ++ inner)) (hinner : inner ≠ [])
    (hpiece : piece.chars = inner ++ rest) (hrest : rest ≠ []) :
    InsideString (pieces.flatMap Token.chars ++ inner) cs := by
  obtain ⟨c, text, hchars, hfirst⟩ := Token.first_of_scan hscan
  rw [hpiece] at hchars
  obtain ⟨inner', rfl⟩ : ∃ inner', inner = c :: inner' := by
    cases inner with
    | nil => exact absurd rfl hinner
    | cons d inner' => exact ⟨inner', by rw [(List.cons.inj hchars).1]⟩
  have htext : text = inner' ++ rest := (List.cons.inj hchars).2.symm
  have hopening : c ∈ Token.opening := by
    by_contra hc
    rw [Token.first_of_notMem hc] at hfirst
    have hlength := congrArg Prod.snd hfirst
    rw [htext, List.length_append] at hlength
    exact hrest (List.length_eq_zero_iff.1 (by simp only at hlength; omega))
  have hblank : isBlank c ≠ true := fun hc =>
    notMem_of_isBlank hc (List.mem_cons_of_mem _ hopening)
  -- the line begins inside the piece, so its line break is there as well
  have hbreak : '\n' ∈ inner' := by
    obtain ⟨lines, blanks, hparts, hlines, hblanks⟩ := hbefore
    rcases List.append_eq_append_iff.1 hparts with ⟨front, rfl, hfront⟩ | ⟨back, -, rfl⟩
    · cases front with
      | nil =>
        rw [List.nil_append] at hfront
        exact absurd (hblanks c (hfront ▸ List.mem_cons_self)) hblank
      | cons d front =>
        obtain ⟨rfl, rfl⟩ := List.cons.inj hfront
        have hlast : (c :: front).getLast? = some '\n' := by
          rcases hlines with hlines | hlines
          · simp at hlines
          · rwa [List.getLast?_append_of_ne_nil _ (List.cons_ne_nil _ _)] at hlines
        rcases List.mem_cons.1 (List.mem_of_getLast? hlast) with hc | hmem
        · exact absurd (hc ▸ by decide) hblank
        · exact List.mem_append_left _ hmem
    · exact absurd (hblanks c (List.mem_append_right _ List.mem_cons_self)) hblank
  have hquoted := Token.quoted_of_lineBreak hfirst (htext ▸ List.mem_append_left _ hbreak)
  refine ⟨pieces, c :: text, later, c :: inner', hquoted ▸ hscan, rfl, hinner, ?_⟩
  have hpos := List.length_pos_of_ne_nil hrest
  rw [htext, List.length_cons, List.length_cons, List.length_append]
  omega

/-- What resembles a declaration and begins a line between two pieces is one if its word has no long
s and an IRI follows. -/
theorem declaresAfter_of_scan {pieces : List Token} {i after : List Char}
    (hscan : Token.scan (before ++ (word ++ (blanks ++ '<' :: (i ++ '>' :: after)))) =
      pieces ++ Token.scan (word ++ (blanks ++ '<' :: (i ++ '>' :: after))))
    (hpieces : pieces.flatMap Token.chars = before) (hbefore : OpensLine before)
    (hword : ResemblesBase word) (hlong : '\u017f' ∉ word)
    (hblanks : ∀ c ∈ blanks, isBlank c = true) (hi : IsIriText i) :
    DeclaresAfter before (before ++ (word ++ (blanks ++ '<' :: (i ++ '>' :: after)))) := by
  refine ⟨pieces, word, blanks, '<' :: (i ++ ['>']), Token.scan after, ?_, hpieces,
    spellsBase_iff.2 ⟨hword, hlong⟩, hblanks,
    fun c hc => isNamePart_of_isBlank (hbefore.getLast? hc)⟩
  rw [hscan, Token.scan_of_notMem fun c hc => notMem_opening_of_resemblesBase hword hc,
    Token.scan_of_notMem fun c hc hmem =>
      notMem_of_isBlank (hblanks c hc) (List.mem_cons_of_mem _ hmem),
    Token.scan_iri hi, List.map_append, List.append_assoc]

/-- **What the search for a declaration finds.** A line begins with what resembles a declaration if
and only if one of the declarations of the text begins its line or some line is misread.

**Proof sketch.** The beginning of the line is between two pieces or inside of one
(`Token.scan_append_cases`). Between pieces the word and the white space are pieces by themselves,
so there is a declaration unless an IRI is missing or the word has a long s; inside a piece there is
a string (`insideString_of_opensLine`). -/
theorem declaresBase_iff : declaresBase cs = true ↔
    LineDeclares cs ∨ Misread cs := by
  rw [declaresBase_iff_resembles]
  constructor
  · rintro ⟨before, word, blanks, rest, rfl, hbefore, hword, hblanks⟩
    rcases Token.scan_append_cases before (word ++ (blanks ++ '<' :: rest)) with
      ⟨pieces, hscan, hpieces⟩ |
        ⟨pieces, piece, later, inner, back, hscan, hparts, -, hpiece, hinner, hback⟩
    · by_cases hlong : '\u017f' ∈ word
      · exact .inr ⟨before, word, blanks, rest, rfl, hbefore, hword, hblanks, .inr (.inr hlong)⟩
      by_cases hiri : ∃ i after, rest = i ++ '>' :: after ∧ IsIriText i
      · obtain ⟨i, after, rfl, hi⟩ := hiri
        exact .inl ⟨before, hbefore,
          declaresAfter_of_scan hscan hpieces hbefore hword hlong hblanks hi⟩
      · exact .inr ⟨before, word, blanks, rest, rfl, hbefore, hword, hblanks,
          .inr (.inl fun i after hrest hi => hiri ⟨i, after, hrest, hi⟩)⟩
    · subst hparts
      exact .inr ⟨_, word, blanks, rest, rfl, hbefore, hword, hblanks,
        .inl (insideString_of_opensLine hscan hbefore hinner hpiece hback)⟩
  · rintro (⟨before, hbefore, pieces, word, blanks, i, later, hscan, rfl, hword, hblanks, -⟩ |
      ⟨before, word, blanks, rest, rfl, hbefore, hword, hblanks, -⟩)
    · obtain ⟨c, text, hchars, hfirst⟩ :=
        Token.first_of_scan (hscan.trans (List.append_assoc pieces _ _).symm)
      obtain rfl := Token.eq_bracket_of_first (congrArg Prod.fst hfirst)
      have hcs := congrArg (List.flatMap Token.chars) hscan
      rw [Token.flatMap_chars_scan, List.flatMap_append, List.flatMap_append, List.flatMap_cons,
        hchars, List.flatMap_map] at hcs
      refine ⟨_, word, blanks, text ++ later.flatMap Token.chars, ?_, hbefore,
        (spellsBase_iff.1 hword).1, hblanks⟩
      simpa [Token.chars] using hcs
    · exact ⟨before, word, blanks, rest, rfl, hbefore, hword, hblanks⟩

/-! ## Main result -/

section

variable {query base : String}

/-- The line that declares a base. -/
def baseLine (base : String) : String := "BASE <" ++ base ++ ">\n"

theorem declaresBase_baseLine (query base : String) :
    declaresBase (baseLine base ++ query).toList = true := by
  have hline : (baseLine base ++ query).toList =
      [] ++ ("BASE".toList ++ ([' '] ++ '<' :: (base.toList ++ '>' :: '\n' :: query.toList))) := by
    simp [baseLine]
  refine declaresBase_iff_resembles.2 ⟨[], _, [' '], _, hline, ⟨[], [], rfl, .inl rfl, ?_⟩, ?_, ?_⟩
  · simp
  · exact resemblesBase_iff.2 ⟨'B', 'A', 'S', 'E', rfl, rfl⟩
  · exact List.forall_mem_singleton.2 rfl

theorem scan_baseLine (h : IsIriText base.toList) :
    Token.scan (baseLine base ++ query).toList = "BASE ".toList.map .other ++
      .iri ('<' :: (base.toList ++ ['>'])) :: .other '\n' :: Token.scan query.toList := by
  have hline : (baseLine base ++ query).toList =
      "BASE ".toList ++ '<' :: (base.toList ++ '>' :: (['\n'] ++ query.toList)) := by
    simp [baseLine]
  rw [hline, Token.scan_of_all (by decide), Token.scan_iri h, Token.scan_of_all (by decide)]
  rfl

theorem withBase_of_declaresBase (h : declaresBase query.toList = true) (base? : Option String) :
    withBase query base? = query := by
  cases base? with
  | none => rfl
  | some base => simp [withBase, h]

theorem withBase_of_not_declaresBase (hne : base ≠ "") (h : declaresBase query.toList ≠ true) :
    withBase query (some base) = baseLine base ++ query := by
  simp [withBase, baseLine, h, hne]

theorem withBase_eq_self_iff (hne : base ≠ "") :
    withBase query (some base) = query ↔ declaresBase query.toList = true := by
  refine ⟨fun h => ?_, fun h => withBase_of_declaresBase h _⟩
  by_contra hnone
  rw [withBase_of_not_declaresBase hne hnone] at h
  have hlength := congrArg String.length h
  simp [baseLine] at hlength

end

/-- **A base is declared unless a line begins with a declaration.** Take a query and the IRI of a
base that is not empty. The query stays as it is if and only if one of its declarations of a base
begins its line or some line is misread as one. Otherwise the line that declares the base is put in
front of it, as the word, a space and the IRI, and the pieces of the query are the same as before.
In either case, doing the same with any other base, or with none, changes nothing.

So the query stays as it is exactly if it declares a base, as long as no line is misread and some
declaration begins its line if there are any.

**Proof sketch.** Lines are searched for what resembles a declaration (`declaresBase_iff`), and the
line in front of the query does. -/
theorem withBase_unless_line_declares (query base : String) (hne : base ≠ "")
    (hiri : IsIriText base.toList) :
    (withBase query (some base) = query ↔
      LineDeclares query.toList ∨ Misread query.toList) ∧
    (withBase query (some base) ≠ query →
      withBase query (some base) = "BASE <" ++ base ++ ">\n" ++ query ∧
        Token.scan (withBase query (some base)).toList = "BASE ".toList.map .other ++
          .iri ('<' :: (base.toList ++ ['>'])) :: .other '\n' :: Token.scan query.toList) ∧
    (∀ other?, withBase (withBase query (some base)) other? = withBase query (some base)) ∧
    ((Declares query.toList → LineDeclares query.toList) → ¬ Misread query.toList →
      (withBase query (some base) = query ↔ Declares query.toList)) := by
  have hsame : withBase query (some base) = query ↔
      LineDeclares query.toList ∨ Misread query.toList :=
    (withBase_eq_self_iff hne).trans declaresBase_iff
  refine ⟨hsame, fun hchanged => ?_, fun other? => ?_, fun hdeclares hmisread => ?_⟩
  · have hline := withBase_of_not_declaresBase hne (mt (withBase_eq_self_iff hne).2 hchanged)
    rw [hline]
    exact ⟨rfl, scan_baseLine hiri⟩
  · by_cases hdeclares : declaresBase query.toList = true
    · rw [withBase_of_declaresBase hdeclares, withBase_of_declaresBase hdeclares]
    · rw [withBase_of_not_declaresBase hne hdeclares,
        withBase_of_declaresBase (declaresBase_baseLine query base)]
  · rw [hsame, or_iff_left hmisread]
    exact ⟨fun ⟨before, _, h⟩ => ⟨before, h⟩, hdeclares⟩

/-- A query that declares no base gets one, once and for all. -/
theorem allTriples_based :
    withBase "SELECT * WHERE \x7b ?s ?p ?o \x7d" (some "http://c/") =
        "BASE <http://c/>\nSELECT * WHERE \x7b ?s ?p ?o \x7d" ∧
      withBase "BASE <http://c/>\nSELECT * WHERE \x7b ?s ?p ?o \x7d" (some "http://d/") =
        "BASE <http://c/>\nSELECT * WHERE \x7b ?s ?p ?o \x7d" ∧
      ¬ LineDeclares "SELECT * WHERE \x7b ?s ?p ?o \x7d".toList := by
  obtain ⟨hsame, hchanged, hagain, -⟩ := withBase_unless_line_declares
    "SELECT * WHERE \x7b ?s ?p ?o \x7d" "http://c/" (by decide) (by decide)
  have hne : withBase "SELECT * WHERE \x7b ?s ?p ?o \x7d" (some "http://c/") ≠
      "SELECT * WHERE \x7b ?s ?p ?o \x7d" := by decide
  have hbased := (hchanged hne).1
  refine ⟨hbased, ?_, fun h => hne (hsame.2 (.inl h))⟩
  have hother := hagain (some "http://d/")
  rwa [hbased] at hother

/-- A query that declares a base behind its prefix. -/
def inlineBase : String :=
  "PREFIX a: <http://a/> BASE <http://b/> SELECT * WHERE \x7b ?s ?p ?o \x7d"

/-- A query that declares none and has a string with a line that resembles a declaration. -/
def quotedBase : String := "SELECT * WHERE \x7b ?s ?p '''\nBASE <x>''' \x7d"

/-- The first query gets a second declaration, and the second query none. -/
theorem declaration_misjudged :
    Declares inlineBase.toList ∧
      withBase inlineBase (some "http://c/") = "BASE <http://c/>\n" ++ inlineBase ∧
      ¬ Declares quotedBase.toList ∧ withBase quotedBase (some "http://c/") = quotedBase := by
  refine ⟨⟨"PREFIX a: <http://a/> ".toList, (Token.scan inlineBase.toList).take 12, "BASE".toList,
    [' '], "<http://b/>".toList, (Token.scan inlineBase.toList).drop 18, by decide +kernel,
    by decide +kernel, spellsBase_iff.2 ⟨resemblesBase_iff.2 ⟨_, _, _, _, rfl, rfl⟩, by decide⟩,
    List.forall_mem_singleton.2 rfl, fun c hc => ?_⟩, by decide +kernel, ?_, by decide +kernel⟩
  · obtain rfl : ' ' = c := Option.some.inj hc
    decide +kernel
  · -- outside the string there is no letter that a declaration begins with
    have hnone : .other 'b' ∉ Token.scan quotedBase.toList ∧
        .other 'B' ∉ Token.scan quotedBase.toList := by decide +kernel
    rintro ⟨before, pieces, word, blanks, i, later, hscan, -, hword, -⟩
    rcases hword with _ | ⟨rfl | rfl, _⟩
    · exact hnone.1 (by rw [hscan]; simp)
    · exact hnone.2 (by rw [hscan]; simp)

end ServiceClause
