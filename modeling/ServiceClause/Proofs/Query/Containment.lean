import Mathlib.Data.List.Chain
import ServiceClause.Proofs.Query.Completeness
import ServiceClause.Proofs.Query.Values

/-!
# Values stay what they are

A query with a row bound in it is scanned as the query itself, with the pieces of the values in the
place of the variables: nothing in a value is read as syntax, and no value changes how the rest of
the query is read. There is one exception. Two quotes that are an empty string become the beginning
of a long string if a third quote follows them and three more come later. Values bring in no such
double quotes, since these are escaped, but they may bring in single quotes.

## Main definitions

* `ServiceClause.Token.boundAll` — the pieces of a query with those of the values put in.
* `ServiceClause.Token.Apart` — what stands next to a variable with a value.
* `ServiceClause.Token.Confined` — no value ends a long string that was none.

## Main statements

* `ServiceClause.Token.scan_boundAll_iff` — a query is scanned with its values in place.
* `ServiceClause.preBind_confines_values` — the same for pre-binding.
-/

set_option autoImplicit false

namespace ServiceClause

/-! ## Values -/

/-- The value that stands for a variable in the queries for a row: the term that the row binds it
to, if the variable is declared and the term is no blank node. -/
def Row.value? (row : Row) (declared : NameSet) (n : Name) : Option Term :=
  if n ∈ declared then (row.get? n).filter (!·.isBlankNode) else none

theorem Row.map_text_value? (row : Row) (declared : NameSet) (n : Name) :
    (row.value? declared n).map Term.text = row.substitute? declared n := by
  unfold value? substitute?
  split
  · cases row.get? n with
    | none => rfl
    | some t => cases t <;> rfl
  · rfl

namespace Token

variable (value : Name → Option Term)

/-- The value of the variable that a piece is, if it is one. -/
def value? : Token → Option Term
  | .var _ name => value (String.ofList name)
  | _ => none

/-- The pieces in the place of a piece. A variable with a value gives way to the pieces of its
value, in the projection together with its name. -/
def boundPieces (inPattern : Bool) (piece : Token) : List Token :=
  match piece with
  | .var _ name =>
    match value (String.ofList name) with
    | none => [piece]
    | some t =>
      if inPattern then t.pieces
      else .other '(' :: (t.pieces ++ (" AS ".toList.map .other ++ [.var '?' name, .other ')']))
  | _ => [piece]

/-- The pieces of a query with the pieces of the values in the place of their variables. The pattern
begins at the first opening brace. -/
def boundAll : Bool → List Token → List Token
  | _, [] => []
  | inPattern, piece :: rest =>
    piece.boundPieces value inPattern ++ boundAll (inPattern || piece.isOpenBrace) rest

/-- Two successive pieces do not both have a value, and if one of them has, the other has no double
quote next to it. -/
def Apart (a b : Token) : Prop :=
  (a.value? value ≠ none → b.value? value = none ∧ b.chars.head? ≠ some '"') ∧
    (b.value? value ≠ none → a.chars.getLast? ≠ some '"')

instance : DecidableRel (Apart value) := fun _ _ => inferInstanceAs (Decidable (_ ∧ _))

/-- After two single quotes that are an empty string and a third one, which opens another string, no
value has three single quotes in a row. -/
def Confined (pieces : List Token) : Prop :=
  ∀ next back, quoted ['\'', '\''] :: quoted ('\'' :: next) :: back <:+ pieces →
    ∀ piece ∈ back, ∀ t, piece.value? value = some t → ¬ t.HasTripleQuote

variable {value} {q c : Char} {cs rest more : List Char} {piece : Token} {pieces : List Token}
  {t : Term} {inPattern : Bool}

/-! ## The text of the pieces -/

theorem boundPieces_of_none (h : piece.value? value = none) :
    piece.boundPieces value inPattern = [piece] := by
  cases piece with
  | var mark name =>
    rw [value?] at h
    simp only [boundPieces, h]
  | _ => rfl

theorem var_of_value (h : piece.value? value = some t) : ∃ mark name,
    piece = var mark name ∧ value (String.ofList name) = some t := by
  cases piece with
  | var mark name => exact ⟨mark, name, rfl, h⟩
  | _ => cases h

theorem flatMap_chars_pieces (h : t.Insertable) : t.pieces.flatMap chars = t.text.toList := by
  have hscan : scan (t.text.toList ++ []) = t.pieces ++ scan [] := Term.scan_text h (by simp)
  rw [List.append_nil, scan_nil, List.append_nil] at hscan
  rw [← hscan, flatMap_chars_scan]

/-- The text that comes in the place of a variable. -/
theorem flatMap_chars_boundPieces (inPattern : Bool) (h : piece.value? value = some t)
    (ht : t.Insertable) :
    ∃ front back, (piece.boundPieces value inPattern).flatMap chars =
        front ++ t.text.toList ++ back ∧
      (front = [] ∧ back = [] ∨
        ∃ mark name, piece = var mark name ∧ front = ['('] ∧
          back = " AS ?".toList ++ name ++ [')']) := by
  obtain ⟨mark, name, rfl, hname⟩ := var_of_value h
  cases inPattern with
  | true =>
    refine ⟨[], [], ?_, .inl ⟨rfl, rfl⟩⟩
    simp [boundPieces, hname, flatMap_chars_pieces ht]
  | false =>
    refine ⟨['('], _, ?_, .inr ⟨mark, name, rfl, rfl, rfl⟩⟩
    simp [boundPieces, hname, flatMap_chars_pieces ht, chars]

theorem bind_eq (hvalues : ∀ n t, value n = some t → t.Insertable) {values : List (Name × String)}
    (h : ∀ n, values.lookup n = (value n).map Term.text) (piece : Token) :
    piece.bind values inPattern = (piece.boundPieces value inPattern).flatMap chars := by
  cases piece with
  | var mark name =>
    simp only [bind, boundPieces, h]
    cases hname : value (String.ofList name) with
    | none => simp
    | some t =>
      have ht := flatMap_chars_pieces (hvalues _ t hname)
      cases inPattern <;> simp [ht, chars]
  | _ => simp [bind, boundPieces]

/-- Pre-binding writes the pieces of the query with its values. -/
theorem bindAll_eq (hvalues : ∀ n t, value n = some t → t.Insertable)
    {values : List (Name × String)} (h : ∀ n, values.lookup n = (value n).map Term.text)
    (inPattern : Bool) (pieces : List Token) :
    bindAll values inPattern pieces = (boundAll value inPattern pieces).flatMap chars := by
  induction pieces generalizing inPattern with
  | nil => rfl
  | cons piece rest ih => rw [bindAll, boundAll, List.flatMap_append, bind_eq hvalues h, ih]

theorem boundAll_append (value : Name → Option Term) (front back : List Token) (inPattern : Bool) :
    ∃ inPattern',
    boundAll value inPattern (front ++ back) =
      boundAll value inPattern front ++ boundAll value inPattern' back := by
  induction front generalizing inPattern with
  | nil => exact ⟨inPattern, rfl⟩
  | cons piece front ih =>
    obtain ⟨inPattern', h⟩ := ih (inPattern || piece.isOpenBrace)
    exact ⟨inPattern', by rw [List.cons_append, boundAll, boundAll, h, List.append_assoc]⟩

theorem boundAll_quoted (text : List Char) (rest : List Token) :
    boundAll value inPattern (quoted text :: rest) =
      quoted text :: boundAll value inPattern rest := by
  simp [boundAll, boundPieces, isOpenBrace]

/-! ## The pieces of one variable -/

/-- What comes in the place of a variable is scanned as the pieces of its value. -/
theorem scan_boundPieces (inPattern : Bool) (h : piece.value? value = some t) (ht : t.Insertable)
    (hvar : ∀ mark name, piece = var mark name → name ≠ [] ∧ ∀ c ∈ name, isWord c = true)
    (hmore : more.head? ≠ some '"') :
    scan ((piece.boundPieces value inPattern).flatMap chars ++ more) =
      piece.boundPieces value inPattern ++ scan more := by
  obtain ⟨mark, name, rfl, hname⟩ := var_of_value h
  cases inPattern with
  | true =>
    simp only [boundPieces, hname, if_true, flatMap_chars_pieces ht]
    exact Term.scan_text ht hmore
  | false =>
    obtain ⟨hne, hword⟩ := hvar mark name rfl
    have hopen := @scan_of_all ['('] (by decide)
      (t.text.toList ++ (" AS ".toList ++ ('?' :: (name ++ ')' :: more))))
    have hkeyword := @scan_of_all " AS ".toList (by decide)
      ('?' :: (name ++ ')' :: more))
    have hend : (')' :: more).takeWhile isWord = [] :=
      List.takeWhile_cons_of_neg (by decide +kernel)
    have hvariable := scan_variable (.inl rfl) hne hword hend
    have hclose := @scan_of_all [')'] (by decide) more
    rw [Term.scan_text ht (by simp), hkeyword, hvariable] at hopen
    simp only [List.cons_append, List.nil_append] at hopen hclose
    rw [hclose] at hopen
    simpa [boundPieces, hname, flatMap_chars_pieces ht, chars] using hopen

/-- What comes in the place of a variable ends no string and no IRI. -/
theorem insert_boundPieces (inPattern : Bool) (h : piece.value? value = some t) (ht : t.Insertable)
    (hvar : ∀ mark name, piece = var mark name → ∀ c ∈ name, isWord c = true) (hq : IsQuote q)
    (hnone : longStringLength q t.text.toList = none) :
    Insert q ((piece.boundPieces value inPattern).flatMap chars) := by
  obtain ⟨front, back, htext, ⟨rfl, rfl⟩ | ⟨mark, name, hpiece, rfl, rfl⟩⟩ :=
    flatMap_chars_boundPieces inPattern h ht
  · rw [htext, List.nil_append, List.append_nil]
    exact Term.insert_text ht hnone
  · have hplain : ∀ c ∈ " AS ?".toList ++ name ++ [')'], c ≠ q ∧ c ≠ '\\' := by
      have hquote : q ∉ " AS ?".toList ++ [')'] := by
        rcases hq with rfl | rfl <;> decide
      have hescape : '\\' ∉ " AS ?".toList ++ [')'] := by decide
      have hends : ∀ c ∈ " AS ?".toList ++ [')'], c ≠ q ∧ c ≠ '\\' := fun c hc =>
        ⟨fun h => hquote (h ▸ hc), fun h => hescape (h ▸ hc)⟩
      have hname := Spliced.plain_of_variable hq (.inl rfl) (hvar mark name hpiece)
      intro c hc
      simp only [List.mem_append] at hc hends
      rcases hc with (hc | hc) | hc
      · exact hends c (.inl hc)
      · exact hname c (List.mem_cons_of_mem _ hc)
      · exact hends c (.inr hc)
    have hback := longStringLength_of_plain hplain
    have hparen : '(' ≠ q := by
      rcases hq with rfl | rfl <;> decide
    have hescaped : Escaped (" AS ?".toList ++ name ++ [')']) :=
      escaped_of_notMem fun hmem => (hplain _ hmem).2 rfl
    rw [htext, List.append_assoc, List.singleton_append]
    refine ⟨⟨'(', _, rfl, .inr (.inr rfl)⟩, fun more => ?_, ?_, ?_⟩
    · rw [List.cons_append, List.append_assoc, iriLength_cons, if_neg (by decide),
        if_neg (by decide), Term.iriLength_text ht]
      rfl
    · exact .plain (by decide) ((Term.escaped_text ht).append hescaped)
    · rw [longStringLength_cons (by decide), if_neg fun hclose => hparen hclose.1,
        (Term.escaped_text ht).longStringLength_append hnone hback fun _ hhead => ?_]
      · rfl
      · rcases hq with rfl | rfl <;> simp at hhead

/-- What comes in the place of a variable has no single quote at its end. -/
theorem getLast?_boundPieces (inPattern : Bool) (h : piece.value? value = some t)
    (ht : t.Insertable) :
    ((piece.boundPieces value inPattern).flatMap chars).getLast? ≠ some '\'' := by
  obtain ⟨front, back, htext, ⟨rfl, rfl⟩ | ⟨mark, name, -, rfl, rfl⟩⟩ :=
    flatMap_chars_boundPieces inPattern h ht
  · rw [htext, List.nil_append, List.append_nil]
    exact Term.getLast?_text ht
  · rw [htext, ← List.append_assoc, List.getLast?_append]
    simp

/-! ## The whole query -/

/-- The first character stays, unless a value comes in its place. -/
theorem head?_boundAll (hvalues : ∀ n t, value n = some t → t.Insertable) (hq : IsQuote q)
    (h : ((boundAll value inPattern (scan cs)).flatMap chars).head? = some q) :
    cs.head? = some q ∨
      q = '"' ∧ ∃ piece ∈ (scan cs).head?, piece.value? value ≠ none := by
  cases cs using scanInduction with
  | nil => simp [boundAll] at h
  | cons c text rest piece hfirst hchars =>
    rw [scan_of_first hfirst, boundAll, List.flatMap_append] at h
    cases hvalue : piece.value? value with
    | none =>
      rw [boundPieces_of_none hvalue, List.flatMap_singleton, hchars] at h
      exact .inl h
    | some t =>
      obtain ⟨mark, name, -, hname⟩ := var_of_value hvalue
      have ht := hvalues _ t hname
      obtain ⟨d, more, htext, hd⟩ := Term.head?_text ht
      obtain ⟨front, back, hbound, ⟨rfl, -⟩ | ⟨_, _, _, rfl, -⟩⟩ :=
        flatMap_chars_boundPieces inPattern hvalue ht
      · rw [hbound, htext] at h
        simp at h
        subst h
        refine .inr ⟨?_, piece, by rw [scan_of_first hfirst]; rfl, by simp [hvalue]⟩
        rcases hd with rfl | rfl
        · rfl
        · rcases hq with hq | hq <;> cases hq
      · rw [hbound] at h
        simp at h
        subst h
        rcases hq with hq | hq <;> cases hq

/-- A text begins as its first piece does. -/
theorem exists_head_scan (h : cs.head? = some c) :
    ∃ piece ∈ (scan cs).head?, piece.chars.head? = some c := by
  cases cs using scanInduction with
  | nil => cases h
  | cons d text rest piece hfirst hchars =>
    exact ⟨piece, by rw [scan_of_first hfirst]; rfl, by rw [hchars]; exact h⟩

/-- No double quote comes after a variable with a value. -/
theorem head?_after_value (hvalues : ∀ n t, value n = some t → t.Insertable)
    (hnext : ∀ next ∈ (scan rest).head?, Apart value piece next) (h : piece.value? value = some t) :
    ((boundAll value inPattern (scan rest)).flatMap chars).head? ≠ some '"' := by
  intro hhead
  have hvalue : piece.value? value ≠ none := by simp [h]
  rcases head?_boundAll hvalues (.inl rfl) hhead with hhead | ⟨-, next, hmem, hnextValue⟩
  · obtain ⟨next, hmem, hnextHead⟩ := exists_head_scan hhead
    exact ((hnext next hmem).1 hvalue).2 hnextHead
  · exact hnextValue ((hnext next hmem).1 hvalue).1

/-- A query becomes the query with its values by putting them in the place of variables. -/
theorem spliced_boundAll (hvalues : ∀ n t, value n = some t → t.Insertable) (hq : IsQuote q)
    (hchain : (scan cs).IsChain (Apart value))
    (hnone : ∀ piece ∈ scan cs, ∀ t, piece.value? value = some t →
      longStringLength q t.text.toList = none) (inPattern : Bool) :
    Spliced q [] [] cs ((boundAll value inPattern (scan cs)).flatMap chars) := by
  have hvars : ∀ mark name, var mark name ∈ scan cs →
      (mark = '?' ∨ mark = '$') ∧ ∀ c ∈ name, isWord c = true := fun mark name hmem =>
    ⟨(variable_of_mem_scan hmem).1, (variable_of_mem_scan hmem).2.2⟩
  induction cs using scanInduction generalizing inPattern with
  | nil =>
    rw [scan_nil]
    exact .ends
  | cons c text rest piece hfirst hchars ih =>
    rw [scan_of_first hfirst] at hchain hnone hvars ⊢
    obtain ⟨hnext, hrest⟩ := List.isChain_cons.1 hchain
    have ih := ih hrest (fun p hp => hnone p (List.mem_cons_of_mem _ hp))
      (inPattern || piece.isOpenBrace) fun mark name hmem =>
        hvars mark name (List.mem_cons_of_mem _ hmem)
    rw [boundAll, List.flatMap_append]
    cases hvalue : piece.value? value with
    | none =>
      rw [boundPieces_of_none hvalue, List.flatMap_singleton, ← List.cons_append, ← hchars]
      refine ih.keepAll fun hlast hhead => ?_
      rcases head?_boundAll hvalues hq hhead with hhead | ⟨rfl, next, hmem, hnextValue⟩
      · exact hhead
      · exact absurd hlast ((hnext next hmem).2 hnextValue)
    | some t =>
      obtain ⟨mark, name, rfl, hname⟩ := var_of_value hvalue
      have ht := hvalues _ t hname
      obtain ⟨hmark, hword⟩ := hvars mark name List.mem_cons_self
      obtain ⟨rfl, rfl⟩ := List.cons.inj hchars
      have hinsert := insert_boundPieces inPattern hvalue ht
        (fun _ _ heq => by cases heq; exact hword) hq (hnone _ List.mem_cons_self t hvalue)
      refine .swap hmark hword hinsert (fun hlast => ?_) ih
      rcases hq with rfl | rfl
      · exact head?_after_value hvalues hnext hvalue
      · exact absurd hlast (getLast?_boundPieces inPattern hvalue ht)

/-- A piece without a value stays the same piece before the rest of the query with its values.

**Proof sketch.** The values end nothing that the rest of the query did not end
(`spliced_boundAll`). The one case where single quotes matter is that the piece is an empty string
with another quote after it. -/
theorem first_boundAll {text : List Char} (hvalues : ∀ n t, value n = some t → t.Insertable)
    (hfirst : first c (text ++ rest) = (piece, text.length))
    (hcomplete : Complete (c :: (text ++ rest)))
    (hchain : (piece :: scan rest).IsChain (Apart value))
    (hconfined : Confined value (piece :: scan rest)) (inPattern : Bool) :
    first c (text ++ (boundAll value inPattern (scan rest)).flatMap chars) =
      (piece, text.length) := by
  obtain ⟨hnext, hrest⟩ := List.isChain_cons.1 hchain
  have hspliced : ∀ q, IsQuote q → (∀ next ∈ scan rest, ∀ t, next.value? value = some t →
      longStringLength q t.text.toList = none) →
      Spliced q [] [] rest ((boundAll value inPattern (scan rest)).flatMap chars) :=
    fun q hq hnone => spliced_boundAll hvalues hq hrest hnone inPattern
  have hdouble := hspliced '"' (.inl rfl) fun next _ t ht => by
    obtain ⟨mark, name, rfl, hname⟩ := var_of_value ht
    exact Term.longStringLength_text (hvalues _ t hname)
  refine hcomplete.first_congr hfirst (fun _ => hdouble.line id) (hdouble.name id)
    (hdouble.iri id) (fun hq hpiece hhead => ?_) fun next back hq hempty hhead hhead' hends => ?_
  · rcases head?_boundAll hvalues hq hhead with hhead' | ⟨rfl, next, hmem, hnextValue⟩
    · exact hhead'
    · exact absurd (by rw [hpiece]; rfl) ((hnext next hmem).2 hnextValue)
  · rcases hq with rfl | rfl
    · exact hdouble.empty (.inl rfl) (by simp) id id hhead hhead' hends
    · have hsingle := hspliced '\'' (.inr rfl) fun p hmem t ht => by
        obtain ⟨mark, name, rfl, hname⟩ := var_of_value ht
        rw [← (List.cons.inj hempty).2] at hmem
        have hback := List.mem_of_ne_of_mem (by simp) hmem
        rw [Term.longStringLength_text_eq_none_iff (hvalues _ t hname)]
        exact hconfined next back (hempty ▸ List.suffix_rfl) _ hback t ht
      exact hsingle.empty (.inr rfl) (by simp) id id hhead hhead' hends

/-- A query with its values in place is scanned as its pieces with those of the values, if no value
ends a long string that was none.

**Proof sketch.** Induction on the query, piece by piece. A variable with a value is scanned by
itself (`scan_boundPieces`), any other piece as it was (`first_boundAll`). -/
theorem scan_boundAll (hvalues : ∀ n t, value n = some t → t.Insertable) (hcomplete : Complete cs)
    (hchain : (scan cs).IsChain (Apart value)) (hconfined : Confined value (scan cs))
    (inPattern : Bool) :
    scan ((boundAll value inPattern (scan cs)).flatMap chars) =
      boundAll value inPattern (scan cs) := by
  have hvars : ∀ mark name, var mark name ∈ scan cs → name ≠ [] ∧ ∀ c ∈ name, isWord c = true :=
    fun mark name hmem => (variable_of_mem_scan hmem).2
  induction cs using scanInduction generalizing inPattern with
  | nil => simp [boundAll]
  | cons c text rest piece hfirst hchars ih =>
    rw [scan_of_first hfirst] at hchain hconfined hvars ⊢
    obtain ⟨hnext, hrest⟩ := List.isChain_cons.1 hchain
    have ih := ih (hcomplete.of_first hfirst).2 hrest
      (fun next back hsuffix => hconfined next back (hsuffix.trans (List.suffix_cons _ _)))
      (inPattern || piece.isOpenBrace) fun mark name hmem =>
        hvars mark name (List.mem_cons_of_mem _ hmem)
    rw [boundAll, List.flatMap_append]
    cases hvalue : piece.value? value with
    | some t =>
      obtain ⟨mark, name, rfl, hname⟩ := var_of_value hvalue
      have hvar : ∀ mark' name', var mark name = var mark' name' →
          name' ≠ [] ∧ ∀ c ∈ name', isWord c = true := by
        rintro _ _ ⟨⟩
        exact hvars mark name List.mem_cons_self
      rw [scan_boundPieces inPattern hvalue (hvalues _ t hname) hvar
        (head?_after_value hvalues hnext hvalue), ih]
    | none =>
      have hstays := first_boundAll hvalues hfirst hcomplete hchain hconfined
        (inPattern || piece.isOpenBrace)
      rw [boundPieces_of_none hvalue, List.flatMap_singleton, hchars, List.cons_append,
        scan_of_first hstays, ih]
      rfl

/-! ## The exception -/

/-- In a term with three single quotes in a row a long string ends, even if the first character of
the term is escaped. -/
theorem longStringLength_of_hasTripleQuote (h : t.Insertable) (ht : t.HasTripleQuote)
    (more : List Char) : longStringLength '\'' (t.text.toList ++ more) ≠ none ∧
      longStringLength '\'' (t.text.toList ++ more).tail ≠ none := by
  have hends : longStringLength '\'' (t.text.toList ++ more) ≠ none := by
    cases hlength : longStringLength '\'' t.text.toList with
    | none => exact absurd ht ((Term.longStringLength_text_eq_none_iff h).1 hlength)
    | some n =>
      rw [← List.append_nil t.text.toList] at hlength
      have hle := (longStringLength_bounds hlength).2
      rw [List.append_nil] at hle
      rw [longStringLength_append hlength hle]
      exact Option.some_ne_none _
  refine ⟨hends, fun htail => hends ?_⟩
  obtain ⟨c, rest, htext, hc⟩ := Term.head?_text h
  have hback : c ≠ '\\' := by
    rcases hc with rfl | rfl <;> decide
  have hquote : c ≠ '\'' := by
    rcases hc with rfl | rfl <;> decide
  rw [htext, List.cons_append, List.tail_cons] at htail
  rw [htext, List.cons_append, longStringLength_cons hback, if_neg fun h => hquote h.1, htail]
  rfl

/-- The value of a piece stands in the query with its values. -/
theorem exists_text_of_mem (hmem : piece ∈ pieces) (h : piece.value? value = some t)
    (ht : t.Insertable) (inPattern : Bool) : ∃ front back,
      (boundAll value inPattern pieces).flatMap chars = front ++ (t.text.toList ++ back) := by
  obtain ⟨before, after, rfl⟩ := List.append_of_mem hmem
  obtain ⟨later, hlater⟩ := boundAll_append value before (piece :: after) inPattern
  obtain ⟨front, back, htext, -⟩ := flatMap_chars_boundPieces later h ht
  refine ⟨(boundAll value inPattern before).flatMap chars ++ front,
    back ++ (boundAll value (later || piece.isOpenBrace) after).flatMap chars, ?_⟩
  rw [hlater, boundAll, List.flatMap_append, List.flatMap_append, htext]
  simp only [List.append_assoc]

/-- A query that is scanned with its values in place has no value that ends a long string.

**Proof sketch.** Where an empty string is scanned before a third quote, no long string ends in the
rest of the query, so none ends in a value there. -/
theorem confined_of_scan (hvalues : ∀ n t, value n = some t → t.Insertable)
    (h : scan ((boundAll value inPattern pieces).flatMap chars) = boundAll value inPattern pieces) :
    Confined value pieces := by
  rintro next back ⟨front, rfl⟩ piece hmem t ht htriple
  obtain ⟨mark, name, rfl, hname⟩ := var_of_value ht
  have hinsertable := hvalues _ t hname
  obtain ⟨later, hlater⟩ := boundAll_append value front
    (quoted ['\'', '\''] :: quoted ('\'' :: next) :: back) inPattern
  obtain ⟨before, after, htext⟩ := exists_text_of_mem hmem ht hinsertable later
  have hscan := scan_of_append (h.trans hlater)
  rw [boundAll_quoted, boundAll_quoted, List.flatMap_cons, List.flatMap_cons, htext] at hscan
  have hnone : longStringLength '\'' (next ++ (before ++ (t.text.toList ++ after))) = none :=
    longStringLength_of_scan (.inr rfl) hscan
  rw [← List.append_assoc] at hnone
  obtain ⟨hends, hends'⟩ := longStringLength_of_hasTripleQuote hinsertable htriple after
  exact (longStringLength_of_append hnone).elim hends hends'

/-- A query with its values in place is scanned as its pieces with those of the values exactly if no
value ends a long string that was none. -/
theorem scan_boundAll_iff (hvalues : ∀ n t, value n = some t → t.Insertable)
    (hcomplete : Complete cs) (hchain : (scan cs).IsChain (Apart value)) :
    scan ((boundAll value inPattern (scan cs)).flatMap chars) =
      boundAll value inPattern (scan cs) ↔ Confined value (scan cs) :=
  ⟨confined_of_scan hvalues, fun hconfined =>
    scan_boundAll hvalues hcomplete hchain hconfined inPattern⟩

theorem boundAll_of_none (h : ∀ n, value n = none) (inPattern : Bool) (pieces : List Token) :
    boundAll value inPattern pieces = pieces := by
  induction pieces generalizing inPattern with
  | nil => rfl
  | cons piece rest ih =>
    have hvalue : piece.value? value = none := by
      cases piece with
      | var mark name => exact h _
      | _ => rfl
    rw [boundAll, ih, boundPieces_of_none hvalue]
    rfl

end Token

/-! ## Main result -/

/-- Pre-binding writes the pieces of the query with its values, or fails for want of a pattern. -/
theorem preBind_eq_boundAll (query : String) (row : Row) (declared : NameSet)
    (hvalues : ∀ n t, row.value? declared n = some t → t.Insertable) :
    (preBind query row declared = .error .noGroupPattern ∧
        .openBrace ∉ Token.scan query.toList ∧ ∃ n t, row.value? declared n = some t) ∨
      ∃ out, preBind query row declared = .ok out ∧ out.toList =
        (Token.boundAll (row.value? declared) false (Token.scan query.toList)).flatMap
          Token.chars := by
  by_cases hsome : ∃ n t, row.value? declared n = some t
  · obtain ⟨n, t, hn⟩ := hsome
    rw [preBind_of_value ⟨n, t.text, by rw [← Row.map_text_value?, hn]; rfl⟩]
    by_cases hbrace : .openBrace ∈ Token.scan query.toList
    · rw [if_pos (Token.any_isOpenBrace.2 hbrace)]
      refine .inr ⟨_, rfl, ?_⟩
      rw [String.toList_ofList, Token.bindAll_eq hvalues fun n => ?_]
      rw [Row.lookup_renderable, Row.map_text_value?]
    · rw [if_neg fun h => hbrace (Token.any_isOpenBrace.1 h)]
      exact .inl ⟨rfl, hbrace, n, t, hn⟩
  · have hnone : ∀ n, row.value? declared n = none := fun n =>
      Option.eq_none_iff_forall_ne_some.2 fun t hn => hsome ⟨n, t, hn⟩
    refine .inr ⟨query, preBind_of_no_value fun n => ?_, ?_⟩
    · rw [← Row.map_text_value?, hnone]
      rfl
    · rw [Token.boundAll_of_none hnone, Token.flatMap_chars_scan]

/-- **Values are not read as syntax.** Take a query whose quotes all lie inside strings, IRIs and
comments, and a row whose values are IRIs and literals of any lexical form, and let no double quote
and no second variable with a value stand next to a variable with a value. Then either pre-binding
fails for want of a pattern, or the query that it gives is cut into the pieces of the original query
with the pieces of the values in the place of their variables: a string with its annotation or an
IRI, and in the projection the name besides. The one exception are values that bring in three single
quotes in a row after two that were an empty string and a third one: then the query is cut
otherwise.

**Proof sketch.** Pre-binding writes the pieces of the query and of the values
(`preBind_eq_boundAll`), and these are scanned again as they are (`Token.scan_boundAll_iff`). -/
theorem preBind_confines_values (query : String) (row : Row) (declared : NameSet)
    (hvalues : ∀ n t, row.value? declared n = some t → t.Insertable)
    (hcomplete : Token.Complete query.toList)
    (hapart : (Token.scan query.toList).IsChain (Token.Apart (row.value? declared))) :
    (preBind query row declared = .error .noGroupPattern ∧
        .openBrace ∉ Token.scan query.toList ∧ ∃ n t, row.value? declared n = some t) ∨
      ∃ out, preBind query row declared = .ok out ∧
        (Token.scan out.toList =
            Token.boundAll (row.value? declared) false (Token.scan query.toList) ↔
          Token.Confined (row.value? declared) (Token.scan query.toList)) := by
  refine (preBind_eq_boundAll query row declared hvalues).imp_right ?_
  rintro ⟨out, hout, htext⟩
  refine ⟨out, hout, ?_⟩
  rw [htext]
  exact Token.scan_boundAll_iff hvalues hcomplete hapart

/-- A row that binds `x` to a literal. -/
def literalRow (lexical : String) : Row := .ofList [("x", .literal (.plain lexical))]

theorem insertable_literalRow (lexical : String) (declared : NameSet) :
    ∀ n t, (literalRow lexical).value? declared n = some t → t.Insertable := by
  intro n t h
  rw [Row.value?] at h
  split at h
  · rw [Option.filter_eq_some_iff] at h
    have hget : Bindings.find? n [("x", .literal (.plain lexical))] = some t := h.1
    simp only [Bindings.find?] at hget
    split at hget
    · cases hget
      exact trivial
    · cases hget
  · cases h

/-- A query with two variables to select. -/
def twoColumns : String := "SELECT ?x ?y WHERE \x7b ?y <http://example.org/p> ?x \x7d"

/-- A literal that tries to end its string, to close the pattern and to begin a comment. -/
def hostile : Row := literalRow "\" . ?y ?p ?o \x7d # \\"

/-- The literal stays a string, in the projection and in the pattern. -/
theorem preBind_confines_hostile : ∃ out,
    preBind twoColumns hostile (.ofList ["x"]) = .ok out ∧
      Token.scan out.toList = Token.boundAll (hostile.value? (.ofList ["x"])) false
        (Token.scan twoColumns.toList) := by
  have h := preBind_confines_values twoColumns hostile (.ofList ["x"]) (insertable_literalRow _ _)
    (by rintro q (rfl | rfl) <;> decide +kernel) (by decide +kernel)
  rcases h with ⟨-, hbrace, -⟩ | ⟨out, hout, hiff⟩
  · exact absurd (by decide +kernel) hbrace
  · refine ⟨out, hout, hiff.2 fun next back hsuffix => ?_⟩
    exact absurd (hsuffix.subset List.mem_cons_self) (by decide +kernel)

/-- A query in which an empty string and another string would be the beginning of a long string, if
one ended later. -/
def threeQuotes : String := "\x7b ?s ?p '''a' , ?x \x7d"

/-- A literal of three single quotes ends a long string, which the query begins. -/
theorem preBind_ends_string :
    (∀ n t, (literalRow "'''").value? (.ofList ["x"]) n = some t → t.Insertable) ∧
      Token.Complete threeQuotes.toList ∧
      (Token.scan threeQuotes.toList).IsChain
        (Token.Apart ((literalRow "'''").value? (.ofList ["x"]))) ∧
      ∃ out, preBind threeQuotes (literalRow "'''") (.ofList ["x"]) = .ok out ∧
        Token.scan out.toList ≠ Token.boundAll ((literalRow "'''").value? (.ofList ["x"])) false
          (Token.scan threeQuotes.toList) := by
  have hout : (preBind threeQuotes (literalRow "'''") (.ofList ["x"])).toOption =
      some "\x7b ?s ?p '''a' , \"'''\" \x7d" := by decide +kernel
  refine ⟨insertable_literalRow _ _, by rintro q (rfl | rfl) <;> decide +kernel, by decide +kernel,
    "\x7b ?s ?p '''a' , \"'''\" \x7d", ?_, by decide +kernel⟩
  cases hbind : preBind threeQuotes (literalRow "'''") (.ofList ["x"]) with
  | error e =>
    rw [hbind] at hout
    cases hout
  | ok out =>
    rw [hbind] at hout
    exact congrArg Except.ok (Option.some.inj hout)

end ServiceClause
