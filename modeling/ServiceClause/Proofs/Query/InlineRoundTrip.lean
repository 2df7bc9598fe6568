import ServiceClause.Query.InlineData
import ServiceClause.Proofs.Query.LexicalForms

/-!
# Inline data is read back

The inline data of a batch fails at the first blank node among the values that are to be sent, and
only there. Otherwise a reader of inline data gets back from its text the variables and, for each
row, its number and its values.

## Main definitions

* `ServiceClause.Term.Writable` — a term that can be written into a query.
* `ServiceClause.InlineData.sent` — the values that are sent.

## Main statements

* `ServiceClause.InlineData.scan_queryText` — a term is scanned as its lexemes.
* `ServiceClause.InlineData.readTuples_tupleLexemes` — tuples are read from their lexemes.
* `ServiceClause.inlineData_roundTrip` — when inline data fails, and what is read back otherwise.
-/

set_option autoImplicit false

namespace ServiceClause

/-! ## What can be written -/

/-- Whether the characters make a word. -/
def IsWordText (chars : List Char) : Prop := chars ≠ [] ∧ ∀ c ∈ chars, isWord c = true

/-- Whether the characters can stand in an IRI. -/
def IsIriText (chars : List Char) : Prop := ∀ c ∈ chars, Token.iriExcludes c = false

/-- Whether the characters make a language tag: a run of letters, and after it runs of letters and
digits, each after a hyphen. -/
def IsLanguageTag (chars : List Char) : Prop :=
  ∃ first rest, chars = first ++ List.flatMap ('-' :: ·) rest ∧
    (first ≠ [] ∧ ∀ c ∈ first, c.isAlpha = true) ∧
    ∀ part ∈ rest, part ≠ [] ∧ ∀ c ∈ part, c.isAlphanum = true

/-- Whether an annotation can be written after a literal. -/
def Annotation.Writable : Annotation → Prop
  | .plain => True
  | .language tag => IsLanguageTag tag.toList
  | .datatype iri => IsIriText iri.toList

/-- Whether a term can be written into a query. -/
def Term.Writable : Term → Prop
  | .iri i => IsIriText i.toList
  | .literal l => l.annotation.Writable
  | .blankNode _ => False

theorem Term.exists_label {t : Term} (h : t.isBlankNode = true) :
    ∃ label, t = .blankNode label := by
  cases t with
  | blankNode label => exact ⟨label, rfl⟩
  | iri i => simp [Term.isBlankNode] at h
  | literal l => simp [Term.isBlankNode] at h

instance (chars : List Char) : Decidable (IsWordText chars) :=
  decidable_of_iff (chars ≠ [] ∧ chars.all isWord = true) (by simp [IsWordText])

instance (chars : List Char) : Decidable (IsIriText chars) :=
  decidable_of_iff (chars.all (!Token.iriExcludes ·) = true) (by simp [IsIriText])

namespace InlineData

/-! ## Failures -/

/-- The values of the variables that are sent, row by row. -/
def sent (batch : List Row) (names : List Name) : List Term :=
  batch.flatMap fun row => names.filterMap row.get?

theorem sent_cons {row : Row} {rest : List Row} {names : List Name} :
    sent (row :: rest) names = names.filterMap row.get? ++ sent rest names := rfl

theorem cells_cons_eq_error_iff {row : Row} {n : Name} {rest : List Name} {e : FederationError} :
    cells row (n :: rest) = .error e ↔
      cell row n = .error e ∨ (∃ text, cell row n = .ok text) ∧ cells row rest = .error e := by
  rw [cells]
  cases cell row n <;> cases cells row rest <;> simp [bind, Except.bind, pure, Except.pure]

theorem tuples_cons_eq_error_iff {names : List Name} {index : Nat} {row : Row} {rest : List Row}
    {e : FederationError} :
    tuples names index (row :: rest) = .error e ↔
      cells row names = .error e ∨
        (∃ text, cells row names = .ok text) ∧ tuples names (index + 1) rest = .error e := by
  rw [tuples]
  cases cells row names <;> cases tuples names (index + 1) rest <;>
    simp [bind, Except.bind, pure, Except.pure]

/-- A tuple fails at its first blank node. -/
theorem cells_eq_error_iff {row : Row} {names : List Name} {e : FederationError} :
    cells row names = .error e ↔ ∃ label,
      (names.filterMap row.get?).find? (·.isBlankNode) = some (.blankNode label) ∧
        e = .blankNode label := by
  induction names with
  | nil => simp [cells]
  | cons n rest ih =>
    rw [cells_cons_eq_error_iff, ih, cell]
    cases hget : row.get? n with
    | none => simp [hget]
    | some t => cases t <;> simp [hget, Term.queryText, Term.isBlankNode, eq_comm]

/-- Tuples fail at the first blank node. -/
theorem tuples_eq_error_iff {batch : List Row} {names : List Name} {index : Nat}
    {e : FederationError} :
    tuples names index batch = .error e ↔ ∃ label,
      (sent batch names).find? (·.isBlankNode) = some (.blankNode label) ∧
        e = .blankNode label := by
  induction batch generalizing index with
  | nil => simp [tuples, sent]
  | cons row rest ih =>
    rw [tuples_cons_eq_error_iff, ih, sent_cons, List.find?_append]
    cases hfind : (names.filterMap row.get?).find? (·.isBlankNode) with
    | none =>
      have hcells : ∃ text, cells row names = .ok text := by
        cases hcells : cells row names with
        | ok text => exact ⟨text, rfl⟩
        | error e' => simp [cells_eq_error_iff, hfind] at hcells
      obtain ⟨text, htext⟩ := hcells
      simp [htext]
    | some t =>
      obtain ⟨label, rfl⟩ := Term.exists_label (List.find?_some hfind)
      have hcells : cells row names = .error (.blankNode label) :=
        cells_eq_error_iff.2 ⟨label, hfind, rfl⟩
      simp [hcells, eq_comm]

/-! ## Scanning -/

variable {mode mode' mode'' : Mode} {chars more : List Char} {found later : List Lexeme}

theorem scan_append (h : scan mode chars = some (found, mode'))
    (h' : scan mode' more = some (later, mode'')) :
    scan mode (chars ++ more) = some (found ++ later, mode'') := by
  induction chars generalizing mode found with
  | nil =>
    obtain ⟨rfl, rfl⟩ := Prod.mk.inj (Option.some.inj h)
    exact h'
  | cons c rest ih =>
    rw [List.cons_append, scan]
    rw [scan] at h
    cases hstep : mode.step c with
    | none => simp [hstep] at h
    | some out =>
      cases hrest : scan out.2 rest with
      | none => simp [hstep, hrest] at h
      | some out' =>
        rw [hstep] at h
        simp [hrest] at h
        obtain ⟨rfl, rfl⟩ := h
        simp [ih hrest]

/-- Characters that extend what the scanner is in the middle of. -/
theorem scan_extend (build : List Char → Mode) {p : Char → Prop}
    (hstep : ∀ read c, p c → (build read).step c = some ([], build (read ++ [c])))
    (h : ∀ c ∈ chars, p c) (read : List Char) :
    scan (build read) chars = some ([], build (read ++ chars)) := by
  induction chars generalizing read with
  | nil => simp [scan]
  | cons c rest ih =>
    rw [scan, hstep read c (h c List.mem_cons_self)]
    simp [ih fun d hd => h d (List.mem_cons_of_mem _ hd)]

/-- A character after a lexeme that nothing else ends is scanned as if nothing were before it. -/
theorem scan_after {lexeme : Lexeme} {c : Char} {rest : List Char}
    (hstep : mode.step c = Mode.startAfter lexeme c)
    (h : scan .between (c :: rest) = some (found, mode')) :
    scan mode (c :: rest) = some (lexeme :: found, mode') := by
  rw [scan] at h ⊢
  rw [hstep, Mode.startAfter]
  cases hstart : Mode.start c with
  | none => simp [Mode.step, hstart] at h
  | some out =>
    cases hrest : scan out.2 rest with
    | none => simp [Mode.step, hstart, hrest] at h
    | some out' =>
      simp [Mode.step, hstart, hrest] at h
      simp [hrest, h]

/-! ### Strings -/

theorem scan_pair {c given : Char} (hescaped : escaped? c = some given)
    (hstep : ∀ d, d ≠ '"' → mode.step d = Mode.content false '"' chars d) :
    scan mode ['\\', c] = some ([], .text false '"' (chars ++ [given])) := by
  rw [scan, hstep '\\' (by decide)]
  simp [scan, Mode.content, Mode.step, hescaped]

/-- What stands for a character in a string is scanned as that character. -/
theorem scan_escapeChar (chars : List Char) (c : Char)
    (hstep : ∀ d, d ≠ '"' → mode.step d = Mode.content false '"' chars d) :
    scan mode (Literal.escapeChar c) = some ([], .text false '"' (chars ++ [c])) := by
  rcases Literal.escapeChar_cases c with ⟨d, hd, -, -, -, hc⟩ | ⟨hc, hback, hquote, hline, hreturn⟩
  · rw [hc]
    exact scan_pair hd hstep
  · rw [hc, scan, hstep c hquote]
    simp [scan, Mode.content, hback, hquote, hline, hreturn]

theorem scan_escape (more : List Char) (chars : List Char) :
    scan (.text false '"' chars) (Literal.escape more) =
      some ([], .text false '"' (chars ++ more)) := by
  induction more generalizing chars with
  | nil => simp [Literal.escape, scan]
  | cons c rest ih =>
    have hfirst : scan (.text false '"' chars) (Literal.escapeChar c) =
        some ([], .text false '"' (chars ++ [c])) := scan_escapeChar chars c fun d _ => rfl
    have hboth := scan_append hfirst (ih (chars ++ [c]))
    rw [List.append_assoc] at hboth
    exact hboth

/-- A string is scanned as a lexeme, whatever begins after it other than a quote. An empty string
does not begin a long one then. -/
theorem scan_quoted {c : Char} {rest : List Char} (hc : c ≠ '"')
    (h : scan .between (c :: rest) = some (found, mode)) (chars : List Char) :
    scan .between ('"' :: Literal.escape chars ++ '"' :: c :: rest) =
      some (.text chars :: found, mode) := by
  have hopened : scan .between ['"'] = some ([], .opened '"') := rfl
  cases chars with
  | nil =>
    have hemptied : scan .between ['"', '"'] = some ([], .emptied '"') := rfl
    exact scan_append hemptied (scan_after (by simp [Mode.step, hc]) h)
  | cons d more =>
    have hfirst : scan (.opened '"') (Literal.escapeChar d) =
        some ([], .text false '"' [d]) :=
      scan_escapeChar [] d fun d' hd => by simp [Mode.step, hd]
    have hclosed : scan (.text false '"' (d :: more)) ['"'] =
        some ([.text (d :: more)], .between) := by simp [scan, Mode.step, Mode.content]
    have hall := scan_append hopened
      (scan_append hfirst (scan_append (scan_escape more [d]) (scan_append hclosed h)))
    simpa [Literal.escape] using hall

/-! ### IRIs, language tags and terms -/

theorem scan_iri (h : IsIriText chars) :
    scan .between ('<' :: chars ++ ['>']) = some ([.iri chars], .between) := by
  have hopened : scan .between ['<'] = some ([], .iri []) := rfl
  have hread : scan (.iri []) chars = some ([], .iri chars) :=
    scan_extend .iri (fun read c hc => by
      have hne : c ≠ '>' := by rintro rfl; exact absurd hc (by decide)
      simp [Mode.step, hne, hc]) h []
  have hclosed : scan (.iri chars) ['>'] = some ([.iri chars], .between) := by
    simp [scan, Mode.step]
  exact scan_append hopened (scan_append hread hclosed)

/-- A run of letters, or of letters and digits after a hyphen, is part of a language tag. -/
theorem scan_tag_run (later fresh : Bool) {part : List Char} (hne : part ≠ [])
    (h : ∀ c ∈ part, (c.isAlpha || later && c.isDigit) = true) (chars : List Char) :
    scan (.tag chars later fresh) part = some ([], .tag (chars ++ part) later false) := by
  cases part with
  | nil => exact absurd rfl hne
  | cons c rest =>
    have hfirst : scan (.tag chars later fresh) [c] =
        some ([], .tag (chars ++ [c]) later false) := by
      simp [scan, Mode.step, h c List.mem_cons_self]
    have hrest : scan (.tag (chars ++ [c]) later false) rest =
        some ([], .tag (chars ++ [c] ++ rest) later false) :=
      scan_extend (fun read => .tag read later false)
        (fun read d hd => by simp only [Mode.step, hd, if_true])
        (fun d hd => h d (List.mem_cons_of_mem _ hd)) (chars ++ [c])
    rw [List.append_assoc] at hrest
    exact scan_append hfirst hrest

theorem scan_tag_parts {rest : List (List Char)}
    (h : ∀ part ∈ rest, part ≠ [] ∧ ∀ c ∈ part, c.isAlphanum = true) (chars : List Char)
    (later : Bool) : ∃ later', scan (.tag chars later false) (rest.flatMap ('-' :: ·)) =
      some ([], .tag (chars ++ rest.flatMap ('-' :: ·)) later' false) := by
  induction rest generalizing chars later with
  | nil => exact ⟨later, by simp [scan]⟩
  | cons part rest ih =>
    obtain ⟨hne, hpart⟩ := h part List.mem_cons_self
    have hhyphen : scan (.tag chars later false) ['-'] =
        some ([], .tag (chars ++ ['-']) true true) := by
      simp [scan, Mode.step]
    have hrun := scan_tag_run true true hne hpart (chars ++ ['-'])
    obtain ⟨later', hrest⟩ := ih (fun part hmem => h part (List.mem_cons_of_mem _ hmem))
      (chars ++ ['-'] ++ part) true
    refine ⟨later', ?_⟩
    simpa using scan_append hhyphen (scan_append hrun hrest)

theorem scan_languageTag (h : IsLanguageTag chars) :
    scan .between ('@' :: chars ++ [' ']) = some ([.language chars], .between) := by
  obtain ⟨first, rest, rfl, ⟨hne, hfirst⟩, hrest⟩ := h
  have hopened : scan .between ['@'] = some ([], .tag [] false true) := rfl
  have hrun := scan_tag_run false true hne
    (fun c hc => by simp [hfirst c hc]) []
  obtain ⟨later, hparts⟩ := scan_tag_parts hrest ([] ++ first) false
  have hclosed : scan (.tag (first ++ rest.flatMap ('-' :: ·)) later false) [' '] =
      some ([.language (first ++ rest.flatMap ('-' :: ·))], .between) := by
    have hspace : scan .between [' '] = some ([], .between) := rfl
    exact scan_after (by simp [Mode.step]) hspace
  simpa using scan_append hopened (scan_append hrun (scan_append hparts hclosed))

/-- The lexemes of an annotation. -/
def annotationLexemes : Annotation → List Lexeme
  | .plain => []
  | .language tag => [.language tag.toList]
  | .datatype iri => [.typeMark, .iri iri.toList]

/-- The lexemes of a value in a tuple. -/
def valueLexemes : Option Term → List Lexeme
  | none => [.word "UNDEF".toList]
  | some (.iri i) => [.iri i.toList]
  | some (.literal l) => .text l.lexical.toList :: annotationLexemes l.annotation
  | some (.blankNode _) => []

/-- The first character after a literal does not extend its string. -/
theorem scan_annotation {a : Annotation} (h : a.Writable) : ∃ c rest, c ≠ '"' ∧
    a.queryText.toList ++ [' '] = c :: rest ∧
      scan .between (c :: rest) = some (annotationLexemes a, .between) := by
  have hspace : scan .between [' '] = some ([], .between) := rfl
  cases a with
  | plain => exact ⟨' ', [], by decide, rfl, hspace⟩
  | language tag =>
    refine ⟨'@', tag.toList ++ [' '], by decide, ?_, scan_languageTag h⟩
    unfold Annotation.queryText
    simp
  | datatype iri =>
    have hcarets : scan .between ['^', '^'] = some ([.typeMark], .between) := rfl
    refine ⟨'^', '^' :: '<' :: iri.toList ++ ['>', ' '], by decide, ?_, ?_⟩
    · unfold Annotation.queryText
      simp
    · simpa [annotationLexemes] using scan_append hcarets (scan_append (scan_iri h) hspace)

theorem scan_literal {l : Literal} (h : l.annotation.Writable) :
    scan .between (l.queryText.toList ++ [' ']) =
      some (valueLexemes (some (.literal l)), .between) := by
  obtain ⟨c, rest, hc, htext, hscan⟩ := scan_annotation h
  have hquoted := scan_quoted hc hscan l.lexical.toList
  rw [← htext] at hquoted
  simpa [Literal.queryText, valueLexemes] using hquoted

/-- A term is scanned as its lexemes. -/
theorem scan_queryText {t : Term} (h : t.Writable) {text : String}
    (htext : t.queryText = .ok text) :
    scan .between (text.toList ++ [' ']) = some (valueLexemes (some t), .between) := by
  cases t with
  | iri i =>
    obtain rfl := Except.ok.inj htext
    have hspace : scan .between [' '] = some ([], .between) := rfl
    simpa [valueLexemes] using scan_append (scan_iri h) hspace
  | literal l =>
    obtain rfl := Except.ok.inj htext
    exact scan_literal h
  | blankNode label => exact absurd h id

/-! ### Tuples -/

/-- The values of a row that are sent. -/
def rowValues (row : Row) (names : List Name) : Tuple := names.map row.get?

/-- The cells of a row whose values can be written are scanned as the lexemes of these. -/
theorem exists_cells {row : Row} {names : List Name}
    (h : ∀ n ∈ names, ∀ t, row.get? n = some t → t.Writable) :
    ∃ text, cells row names = .ok text ∧
      scan .between text.toList =
        some ((rowValues row names).flatMap valueLexemes, .between) := by
  induction names with
  | nil => exact ⟨"", rfl, rfl⟩
  | cons n rest ih =>
    obtain ⟨others, hothers, hscan⟩ := ih fun m hm => h m (List.mem_cons_of_mem _ hm)
    obtain ⟨text, htext, hfirst⟩ : ∃ text, cell row n = .ok text ∧
        scan .between (text.toList ++ [' ']) = some (valueLexemes (row.get? n), .between) := by
      unfold cell
      cases hget : row.get? n with
      | none => exact ⟨"UNDEF", rfl, by decide +kernel⟩
      | some t =>
        have hwritable := h n List.mem_cons_self t hget
        cases t with
        | blankNode label => exact absurd hwritable id
        | iri i => exact ⟨_, rfl, scan_queryText hwritable rfl⟩
        | literal l => exact ⟨_, rfl, scan_queryText hwritable rfl⟩
    refine ⟨text ++ " " ++ others, by rw [cells, htext, hothers]; rfl, ?_⟩
    simpa [rowValues] using scan_append hfirst hscan

/-- The number of a row as a value. -/
def numeral (index : Nat) : Term := .literal (.plain (toString index))

/-- Digits need no escapes. -/
theorem escape_of_digits (h : ∀ c ∈ chars, c.isDigit = true) : Literal.escape chars = chars := by
  have hchar : ∀ c : Char, c.isDigit = true → Literal.escapeChar c = [c] := by
    intro c hc
    have hne : ∀ d : Char, d.isDigit = false → c ≠ d := by
      rintro d hd rfl
      exact Bool.false_ne_true (hd.symm.trans hc)
    simp [Literal.escapeChar, hne '\\' rfl, hne '"' rfl, hne '\n' rfl, hne '\r' rfl]
  induction chars with
  | nil => rfl
  | cons c rest ih =>
    have hrest := ih fun d hd => h d (List.mem_cons_of_mem _ hd)
    rw [Literal.escape] at hrest ⊢
    rw [List.flatMap_cons, hrest, hchar c (h c List.mem_cons_self)]
    rfl

theorem scan_numeral (index : Nat) :
    scan .between ('"' :: (toString index).toList ++ ['"', ' ']) =
      some (valueLexemes (some (numeral index)), .between) := by
  have hdigit : ∀ c ∈ (toString index).toList, c.isDigit = true := by
    rw [Nat.toString_eq_repr, Nat.toList_repr]
    exact fun c hc => Nat.isDigit_of_mem_toDigits (by decide) (by decide) hc
  have hspace : scan .between [' '] = some ([], .between) := rfl
  have hquoted := scan_quoted (by decide) hspace (toString index).toList
  rw [escape_of_digits hdigit] at hquoted
  exact hquoted

/-- The values of a tuple: the number of a row and the values of the row. -/
def tupleValues (names : List Name) (index : Nat) (row : Row) : Tuple :=
  some (numeral index) :: rowValues row names

/-- The lexemes of a tuple. -/
def tupleLexemes (values : Tuple) : List Lexeme :=
  .mark '(' :: values.flatMap valueLexemes ++ [.mark ')']

/-- Tuples whose values can be written are scanned as the lexemes of these. -/
theorem exists_tuples {batch : List Row} {names : List Name}
    (h : ∀ row ∈ batch, ∀ n ∈ names, ∀ t, row.get? n = some t → t.Writable) (index : Nat) :
    ∃ text, tuples names index batch = .ok text ∧
      scan .between text.toList = some
        ((batch.mapIdx fun i row => tupleValues names (index + i) row).flatMap tupleLexemes,
          .between) := by
  induction batch generalizing index with
  | nil => exact ⟨"", rfl, rfl⟩
  | cons row rest ih =>
    obtain ⟨others, hothers, hlater⟩ := ih (fun r hr => h r (List.mem_cons_of_mem _ hr)) (index + 1)
    obtain ⟨text, htext, hcells⟩ := exists_cells (h row List.mem_cons_self)
    have hopened : scan .between [' ', '('] = some ([.mark '('], .between) := rfl
    have hclosed : scan .between [')'] = some ([.mark ')'], .between) := rfl
    refine ⟨_, by rw [tuples, htext, hothers]; rfl, ?_⟩
    have hall := scan_append hopened (scan_append (scan_numeral index)
      (scan_append hcells (scan_append hclosed hlater)))
    have hindex : ∀ i, index + 1 + i = index + (i + 1) := fun i => by omega
    simp only [hindex] at hall
    simpa [tupleLexemes, tupleValues, List.mapIdx_cons] using hall

/-! ### Blocks -/

/-- A name ends where no character of a word follows. -/
theorem scan_name_end {c : Char} {rest : List Char} (hc : isWord c = false) (hne : chars ≠ [])
    (h : scan .between (c :: rest) = some (found, mode)) :
    scan (.name chars) (c :: rest) = some (.name chars :: found, mode) :=
  scan_after (by simp [Mode.step, hc, hne]) h

/-- The variables of a block are scanned as their names. -/
theorem scan_names {names : List Name} (h : ∀ n ∈ names, IsWordText n.toList) {first : List Char}
    (hfirst : first ≠ []) :
    scan (.name first) ((names.flatMap fun n => ' ' :: '?' :: n.toList) ++ [')']) =
      some (.name first :: names.map (fun n => .name n.toList) ++ [.mark ')'], .between) := by
  induction names generalizing first with
  | nil => exact scan_name_end (by decide +kernel) hfirst rfl
  | cons n rest ih =>
    obtain ⟨hne, hword⟩ := h n List.mem_cons_self
    have hmark : scan (.name first) [' ', '?'] = some ([.name first], .name []) :=
      scan_name_end (by decide +kernel) hfirst rfl
    have hname : scan (.name []) n.toList = some ([], .name n.toList) :=
      scan_extend .name (fun read c hc => by simp only [Mode.step, hc, if_true]) hword []
    have hrest := ih (fun m hm => h m (List.mem_cons_of_mem _ hm)) hne
    simpa using scan_append hmark (scan_append hname hrest)

/-- The lexemes of a block. -/
def blockLexemes (names : List Name) (tuples : List Tuple) : List Lexeme :=
  [.word "VALUES".toList, .mark '('] ++ names.map (fun n => .name n.toList) ++
    [.mark ')', .mark '\x7b'] ++ tuples.flatMap tupleLexemes ++ [.mark '\x7d']

/-! ## Reading -/

theorem readNames_append (names : List Name) (rest : List Lexeme) :
    readNames (names.map (fun n => .name n.toList) ++ .mark ')' :: rest) = some (names, rest) := by
  induction names with
  | nil => rfl
  | cons n names ih => simp [readNames, ih]

/-- A string is a literal of its own unless an annotation follows. -/
theorem readTuple_text {rest : List Lexeme} (hlanguage : ∀ tag later, rest ≠ .language tag :: later)
    (hdatatype : ∀ later, rest ≠ .typeMark :: later) (chars : List Char) :
    readTuple (.text chars :: rest) = (readTuple rest).map fun (values, tuples) =>
      (some (.literal ⟨String.ofList chars, .plain⟩) :: values, tuples) := by
  rw [readTuple.eq_def]
  cases rest with
  | nil => rfl
  | cons lexeme later =>
    cases lexeme with
    | language tag => exact absurd rfl (hlanguage tag later)
    | typeMark => exact absurd rfl (hdatatype later)
    | _ => rfl

/-- The lexemes of values do not begin with an annotation. -/
theorem valueLexemes_append_ne {values : Tuple} (h : ∀ t, some t ∈ values → t.Writable)
    (rest : List Lexeme) :
    (∀ tag later, values.flatMap valueLexemes ++ .mark ')' :: rest ≠ .language tag :: later) ∧
      ∀ later, values.flatMap valueLexemes ++ .mark ')' :: rest ≠ .typeMark :: later := by
  cases values with
  | nil => simp
  | cons value values =>
    cases value with
    | none => simp [valueLexemes]
    | some t =>
      cases t with
      | iri i => simp [valueLexemes]
      | literal l => simp [valueLexemes]
      | blankNode label => exact absurd (h _ List.mem_cons_self) id

/-- Values are read from their lexemes, up to the closing parenthesis.

**Proof sketch.** Induction on the values. The lexemes of the later ones do not begin with an
annotation, so a string before them is a literal of its own. -/
theorem readTuple_append {values : Tuple} (h : ∀ t, some t ∈ values → t.Writable)
    (rest : List Lexeme) :
    readTuple (values.flatMap valueLexemes ++ .mark ')' :: rest) =
      (readTuples rest).map fun tuples => (values, tuples) := by
  induction values with
  | nil => simp [readTuple]
  | cons value values ih =>
    have hwritable : ∀ t, some t ∈ values → t.Writable := fun t ht =>
      h t (List.mem_cons_of_mem _ ht)
    have hlater := ih hwritable
    obtain ⟨hlanguage, hdatatype⟩ := valueLexemes_append_ne hwritable rest
    rw [List.flatMap_cons, List.append_assoc]
    generalize values.flatMap valueLexemes ++ .mark ')' :: rest = more
      at hlater hlanguage hdatatype ⊢
    have hread : readTuple (valueLexemes value ++ more) =
        (readTuple more).map fun (values, tuples) => (value :: values, tuples) := by
      cases value with
      | none => rfl
      | some t =>
        cases t with
        | iri i => simp [valueLexemes, readTuple]
        | literal l =>
          obtain ⟨lexical, annotation⟩ := l
          cases annotation with
          | plain =>
            simpa [valueLexemes, annotationLexemes] using
              readTuple_text hlanguage hdatatype lexical.toList
          | language tag => simp [valueLexemes, annotationLexemes, readTuple]
          | datatype iri => simp [valueLexemes, annotationLexemes, readTuple]
        | blankNode label => exact absurd (h _ List.mem_cons_self) id
    rw [hread, hlater, Option.map_map]
    rfl

/-- Tuples are read from their lexemes. -/
theorem readTuples_tupleLexemes {tuples : List Tuple}
    (h : ∀ values ∈ tuples, ∀ t, some t ∈ values → t.Writable) :
    readTuples (tuples.flatMap tupleLexemes ++ [.mark '\x7d']) = some tuples := by
  induction tuples with
  | nil => rfl
  | cons values rest ih =>
    have hlater := ih fun v hv => h v (List.mem_cons_of_mem _ hv)
    have hread := readTuple_append (h values List.mem_cons_self)
      (rest.flatMap tupleLexemes ++ [.mark '\x7d'])
    rw [hlater] at hread
    simp [tupleLexemes, readTuples, hread]

theorem readBlock_blockLexemes {names : List Name} {tuples : List Tuple}
    (h : ∀ values ∈ tuples, ∀ t, some t ∈ values → t.Writable)
    (harity : ∀ values ∈ tuples, values.length = names.length) :
    readBlock (blockLexemes names tuples) = some ⟨names, tuples, harity⟩ := by
  have hnames := readNames_append names
    (.mark '\x7b' :: (tuples.flatMap tupleLexemes ++ [.mark '\x7d']))
  have htuples := readTuples_tupleLexemes h
  have hkeyword : isKeyword "VALUES" ['V', 'A', 'L', 'U', 'E', 'S'] = true := by decide
  simpa [blockLexemes, readBlock, hnames, htuples] using ⟨hkeyword, harity⟩

end InlineData

/-! ## Main result -/

namespace InlineData

variable {batch : List Row} {names : List Name} {indexName : Name}

theorem mem_sent_iff {t : Term} :
    t ∈ sent batch names ↔ ∃ row ∈ batch, ∃ n ∈ names, row.get? n = some t := by
  simp [sent, List.mem_flatMap, List.mem_filterMap]

/-- The first blank node among the values that are sent. -/
theorem exists_first_blankNode_iff :
    (∃ label, (sent batch names).find? (·.isBlankNode) = some (.blankNode label)) ↔
      ∃ row ∈ batch, ∃ n ∈ names, ∃ label, row.get? n = some (.blankNode label) := by
  constructor
  · rintro ⟨label, hfind⟩
    obtain ⟨row, hrow, n, hn, hget⟩ := mem_sent_iff.1 (List.mem_of_find?_eq_some hfind)
    exact ⟨row, hrow, n, hn, label, hget⟩
  · rintro ⟨row, hrow, n, hn, label, hget⟩
    have hmem : Term.blankNode label ∈ sent batch names := mem_sent_iff.2 ⟨row, hrow, n, hn, hget⟩
    have hsome : ((sent batch names).find? (·.isBlankNode)).isSome = true :=
      List.find?_isSome.2 ⟨_, hmem, rfl⟩
    obtain ⟨t, ht⟩ := Option.isSome_iff_exists.1 hsome
    obtain ⟨first, rfl⟩ := Term.exists_label (List.find?_some ht)
    exact ⟨first, ht⟩

theorem inlineData_eq_error_iff {e : FederationError} :
    inlineData batch names indexName = .error e ↔ tuples names 0 batch = .error e := by
  rw [inlineData]
  cases tuples names 0 batch <;> simp [bind, Except.bind, pure, Except.pure]

/-- The text of a block is scanned as its lexemes. -/
theorem exists_inlineData (hnames : ∀ n ∈ indexName :: names, IsWordText n.toList)
    (hvalues : ∀ row ∈ batch, ∀ n ∈ names, ∀ t, row.get? n = some t → t.Writable) :
    ∃ text, inlineData batch names indexName = .ok text ∧
      lexemes text.toList = some (blockLexemes (indexName :: names)
        (batch.mapIdx (tupleValues names))) := by
  obtain ⟨text, htext, hscan⟩ := exists_tuples hvalues 0
  refine ⟨header indexName names ++ text ++ " \x7d", by rw [inlineData, htext]; rfl, ?_⟩
  obtain ⟨hne, hword⟩ := hnames indexName List.mem_cons_self
  have hkeyword : scan .between " VALUES (?".toList =
      some ([.word "VALUES".toList, .mark '('], .name []) := by decide +kernel
  have hindex : scan (.name []) indexName.toList = some ([], .name indexName.toList) :=
    scan_extend .name (fun read c hc => by simp only [Mode.step, hc, if_true]) hword []
  have hopened : scan .between [' ', '\x7b', ' '] = some ([.mark '\x7b'], .between) := rfl
  have hclosed : scan .between [' ', '\x7d'] = some ([.mark '\x7d'], .between) := rfl
  have hrest := scan_names (fun n hn => hnames n (List.mem_cons_of_mem _ hn)) hne
  have hall := scan_append hkeyword (scan_append hindex (scan_append hrest
    (scan_append hopened (scan_append hscan hclosed))))
  have htoList : (header indexName names ++ text ++ " \x7d").toList =
      " VALUES (?".toList ++ (indexName.toList ++
        ((names.flatMap fun n => ' ' :: '?' :: n.toList) ++ [')'] ++
          ([' ', '\x7b', ' '] ++ (text.toList ++ [' ', '\x7d'])))) := by
    simp [header, String.toList_join, List.flatMap_map]
  rw [lexemes, htoList, hall]
  simp [Mode.finish, blockLexemes]

end InlineData

open InlineData

/-- **Inline data is read back.** The inline data of a batch fails with the error of the first blank
node among the values that are sent, row by row, and it fails exactly if some row binds one of the
variables to a blank node. If the values can be written and the variables are words, a reader of
inline data gets back the row index and the variables, and for each row its number in decimal digits
and its values, with those left open that the row does not bind.

**Proof sketch.** Each piece of the text is scanned as its lexemes (`scan_quoted`, `scan_iri`,
`scan_languageTag`), and so is the text put together from them (`scan_append`). The lexemes are read
as the tuples that they stand for (`readTuples_tupleLexemes`). -/
theorem inlineData_roundTrip (batch : List Row) (names : List Name) (indexName : Name) :
    (∀ e, inlineData batch names indexName = .error e ↔ ∃ label,
      (sent batch names).find? (·.isBlankNode) = some (.blankNode label) ∧
        e = .blankNode label) ∧
    ((∃ e, inlineData batch names indexName = .error e) ↔
      ∃ row ∈ batch, ∃ n ∈ names, ∃ label, row.get? n = some (.blankNode label)) ∧
    ((∀ n ∈ indexName :: names, IsWordText n.toList) →
      (∀ row ∈ batch, ∀ n ∈ names, ∀ t, row.get? n = some t → t.Writable) →
      ∃ text block, inlineData batch names indexName = .ok text ∧
        InlineData.read text = some block ∧ block.names = indexName :: names ∧
          block.tuples = batch.mapIdx fun i row =>
            some (.literal (.plain (toString i))) :: names.map row.get?) := by
  refine ⟨fun e => ?_, ?_, fun hnames hvalues => ?_⟩
  · rw [inlineData_eq_error_iff, tuples_eq_error_iff]
  · rw [← exists_first_blankNode_iff]
    simp only [inlineData_eq_error_iff, tuples_eq_error_iff]
    exact ⟨fun ⟨_, label, hfind, _⟩ => ⟨label, hfind⟩, fun ⟨label, hfind⟩ => ⟨_, label, hfind, rfl⟩⟩
  · obtain ⟨text, htext, hlexemes⟩ := exists_inlineData hnames hvalues
    have hwritable : ∀ values ∈ batch.mapIdx (tupleValues names), ∀ t, some t ∈ values →
        t.Writable := by
      intro values hmem t ht
      obtain ⟨i, hi, rfl⟩ := List.mem_mapIdx.1 hmem
      rcases List.mem_cons.1 ht with hnumeral | hvalue
      · obtain rfl := Option.some.inj hnumeral
        exact trivial
      · obtain ⟨n, hn, hget⟩ := List.mem_map.1 hvalue
        exact hvalues _ (List.getElem_mem hi) n hn t hget
    have harity : ∀ values ∈ batch.mapIdx (tupleValues names),
        values.length = (indexName :: names).length := by
      intro values hmem
      obtain ⟨i, hi, rfl⟩ := List.mem_mapIdx.1 hmem
      simp [tupleValues, rowValues]
    refine ⟨text, ⟨indexName :: names, batch.mapIdx (tupleValues names), harity⟩, htext, ?_, rfl,
      rfl⟩
    rw [InlineData.read, hlexemes]
    exact readBlock_blockLexemes hwritable harity

/-- A row with a name in quotes and its language, and a resource. -/
def labelledRow : Row :=
  (Row.empty.insert "label" (.literal ⟨"say \"a\\b\"\n", .language "en-GB"⟩)).insert "s"
    (.iri "http://example.org/a")

/-- A row with an empty literal that has a datatype, and without a name. -/
def unlabelledRow : Row :=
  Row.empty.insert "s" (.literal ⟨"", .datatype "http://example.org/none"⟩)

/-- The values of both rows are read back, though the first one holds quotes, the second one holds
an empty string, and one is missing. -/
theorem labelled_readBack : ∃ text block,
    inlineData [labelledRow, unlabelledRow] ["label", "s"] "__rowIdx" = .ok text ∧
      InlineData.read text = some block ∧ block.names = ["__rowIdx", "label", "s"] ∧
        block.tuples =
          [[some (.literal (.plain "0")), some (.literal ⟨"say \"a\\b\"\n", .language "en-GB"⟩),
              some (.iri "http://example.org/a")],
            [some (.literal (.plain "1")), none,
              some (.literal ⟨"", .datatype "http://example.org/none"⟩)]] := by
  have hlabel : (Term.literal ⟨"say \"a\\b\"\n", .language "en-GB"⟩).Writable :=
    ⟨"en".toList, ["GB".toList], by decide, by simp, by simp⟩
  have hresource : (Term.iri "http://example.org/a").Writable := by
    change IsIriText _
    decide +kernel
  have hempty : (Term.literal ⟨"", .datatype "http://example.org/none"⟩).Writable := by
    change IsIriText _
    decide +kernel
  have hwritable : ∀ row ∈ [labelledRow, unlabelledRow], ∀ n ∈ ["label", "s"], ∀ t,
      row.get? n = some t → t.Writable := by
    intro row hrow n hn t hget
    simp only [List.mem_cons, List.not_mem_nil, or_false] at hrow hn
    rcases hrow with rfl | rfl <;> rcases hn with rfl | rfl
    · exact Option.some.inj hget ▸ hlabel
    · exact Option.some.inj hget ▸ hresource
    · exact absurd hget (by simp [show unlabelledRow.get? "label" = none by decide])
    · exact Option.some.inj hget ▸ hempty
  obtain ⟨text, block, htext, hread, hnames, htuples⟩ :=
    (inlineData_roundTrip [labelledRow, unlabelledRow] ["label", "s"] "__rowIdx").2.2
      (by decide +kernel) hwritable
  exact ⟨text, block, htext, hread, hnames, htuples.trans (by decide +kernel)⟩

end ServiceClause
