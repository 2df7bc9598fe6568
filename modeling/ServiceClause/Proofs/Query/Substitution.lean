import ServiceClause.Proofs.Query.Pieces
import ServiceClause.Query.PreBinding

/-!
# What pre-binding changes in a query

Binding a row in a query leaves every piece of the query as it is but the variables that have a value
to stand for them: those that the clause declares and the row binds to an IRI or a literal. Before
the first opening brace such a variable keeps its name beside the value, after it only the value is
left. Nothing else about the row matters.

## Main definitions

* `ServiceClause.Row.substitute?` — the text that stands for a variable.
* `ServiceClause.Token.projected`, `ServiceClause.Token.replaced` — a piece before and after the
  first opening brace.

## Main statements

* `ServiceClause.Row.lookup_renderable` — the values that are put into a query, one by one.
* `ServiceClause.Token.bindAll_of_openBrace` — the pieces before and after the first opening brace.
* `ServiceClause.preBind_substitutes` — a query with its row bound.
-/

set_option autoImplicit false

namespace ServiceClause

/-! ## Values -/

namespace Row

/-- The text that stands for a variable in the queries for a row: the value of the row, if the
variable is declared and the value is an IRI or a literal. -/
def substitute? (row : Row) (declared : NameSet) (n : Name) : Option String :=
  if n ∈ declared then (row.get? n).bind (·.queryText?) else none

variable {row other : Row} {declared : NameSet}

/-- The values that are put into a query, one by one.

**Proof sketch.** Induction on the bindings of the row. Since no variable is bound twice, a binding
to a blank node leaves no value for its variable. -/
theorem lookup_renderable (n : Name) :
    (row.renderable declared).lookup n = row.substitute? declared n := by
  obtain ⟨entries, hnodup⟩ := row
  simp only [renderable, substitute?, get?]
  induction entries with
  | nil => simp [Bindings.find?]
  | cons b rest ih =>
    obtain ⟨m, t⟩ := b
    simp only [List.map_cons, List.nodup_cons] at hnodup
    have hrest := ih hnodup.2
    have hunbound : n = m → Bindings.find? n rest = none := fun h =>
      Bindings.find?_eq_none_iff.2 (h ▸ hnodup.1)
    by_cases hdeclared : m ∈ declared
    · cases htext : t.queryText? with
      | none =>
        simp only [List.filter_cons, hdeclared, decide_true, if_true, List.filterMap_cons, htext,
          Option.map_none, hrest, Bindings.find?]
        by_cases hn : n = m
        · simp [hn, htext, hn ▸ hunbound hn]
        · rw [if_neg (Ne.symm hn)]
      | some text =>
        simp only [List.filter_cons, hdeclared, decide_true, if_true, List.filterMap_cons, htext,
          Option.map_some, Bindings.find?]
        by_cases hn : n = m
        · simp [hn, hdeclared, htext]
        · rw [if_neg (Ne.symm hn), List.lookup_cons, beq_eq_false_iff_ne.2 hn, hrest]
    · simp only [List.filter_cons, hdeclared, decide_false, Bool.false_eq_true, if_false, hrest,
        Bindings.find?]
      by_cases hn : n = m
      · simp [hn, hdeclared]
      · rw [if_neg (Ne.symm hn)]

/-- There is no value to put into a query if no variable has one. -/
theorem renderable_eq_nil_iff :
    row.renderable declared = [] ↔ ∀ n, row.substitute? declared n = none := by
  simp only [← lookup_renderable]
  constructor
  · intro h n
    rw [h, List.lookup_nil]
  · intro h
    cases hvalues : row.renderable declared with
    | nil => rfl
    | cons b rest =>
      have hb := h b.1
      rw [hvalues, List.lookup_cons_self] at hb
      cases hb

/-- What stands for the variables depends on the IRIs and literals alone that a row binds declared
variables to. -/
theorem substitute?_congr (h : ∀ n ∈ declared, ∀ t : Term, t.isBlankNode = false →
    (other.get? n = some t ↔ row.get? n = some t)) :
    other.substitute? declared = row.substitute? declared := by
  have hvalue : ∀ (r : Row) (n : Name) (text : String), (r.get? n).bind (·.queryText?) = some text ↔
      ∃ t : Term, t.isBlankNode = false ∧ r.get? n = some t ∧ t.queryText? = some text := by
    intro r n text
    rw [Option.bind_eq_some_iff]
    constructor
    · rintro ⟨t, hget, htext⟩
      refine ⟨t, ?_, hget, htext⟩
      cases hblank : t.isBlankNode with
      | false => rfl
      | true =>
        rw [Term.queryText?_eq_none_iff.2 hblank] at htext
        cases htext
    · rintro ⟨t, _, hget, htext⟩
      exact ⟨t, hget, htext⟩
  funext n
  unfold substitute?
  split
  · next hn =>
    refine Option.ext fun text => ?_
    rw [hvalue, hvalue]
    refine exists_congr fun t => and_congr_right fun hblank => ?_
    rw [h n hn t hblank]
  · rfl

end Row

/-! ## Pieces -/

namespace Token

variable (value : Name → Option String)

/-- A piece before the first opening brace: a variable with a value becomes `(value AS ?name)`. -/
def projected (piece : Token) : List Char :=
  match piece with
  | .var _ name =>
    match value (String.ofList name) with
    | some text => ("(" ++ text ++ " AS ?" ++ String.ofList name ++ ")").toList
    | none => piece.chars
  | _ => piece.chars

/-- A piece after the first opening brace: a variable with a value becomes the value. -/
def replaced (piece : Token) : List Char :=
  match piece with
  | .var _ name =>
    match value (String.ofList name) with
    | some text => text.toList
    | none => piece.chars
  | _ => piece.chars

variable {value} {values : List (Name × String)}

theorem bind_false (h : ∀ n, values.lookup n = value n) (piece : Token) :
    piece.bind values false = piece.projected value := by
  cases piece with
  | var mark name =>
    simp only [bind, projected, h]
    cases value (String.ofList name) <;> simp
  | _ => rfl

theorem bind_true (h : ∀ n, values.lookup n = value n) (piece : Token) :
    piece.bind values true = piece.replaced value := by
  cases piece with
  | var mark name =>
    simp only [bind, replaced, h]
    cases value (String.ofList name) <;> simp
  | _ => rfl

/-- In the pattern every piece is replaced by itself.

**Proof sketch.** Induction on the pieces; the pattern never ends. -/
theorem bindAll_true (h : ∀ n, values.lookup n = value n) (pieces : List Token) :
    bindAll values true pieces = pieces.flatMap (·.replaced value) := by
  induction pieces with
  | nil => rfl
  | cons piece rest ih =>
    rw [bindAll, Bool.true_or, ih, bind_true h, List.flatMap_cons]

/-- The first opening brace parts the pieces that keep the names of their variables from those that
do not.

**Proof sketch.** Induction on the pieces before the brace. -/
theorem bindAll_of_openBrace (h : ∀ n, values.lookup n = value n) {front back : List Token}
    (hfront : openBrace ∉ front) :
    bindAll values false (front ++ openBrace :: back) =
      front.flatMap (·.projected value) ++ '\x7b' :: back.flatMap (·.replaced value) := by
  induction front with
  | nil =>
    rw [List.nil_append, bindAll, isOpenBrace, Bool.or_true, bindAll_true h]
    rfl
  | cons piece rest ih =>
    rw [List.mem_cons, not_or] at hfront
    have hpiece : piece.isOpenBrace = false := by
      cases piece with
      | openBrace => exact absurd rfl hfront.1
      | _ => rfl
    rw [List.cons_append, bindAll, hpiece, Bool.or_false, ih hfront.2, bind_false h,
      List.flatMap_cons, List.append_assoc]

/-- The values are only looked up. -/
theorem bindAll_congr {values' : List (Name × String)}
    (h : ∀ n, values.lookup n = values'.lookup n) (inPattern : Bool) (pieces : List Token) :
    bindAll values inPattern pieces = bindAll values' inPattern pieces := by
  induction pieces generalizing inPattern with
  | nil => rfl
  | cons piece rest ih =>
    have hpiece : piece.bind values inPattern = piece.bind values' inPattern := by
      cases inPattern with
      | false => rw [bind_false h, bind_false fun _ => rfl]
      | true => rw [bind_true h, bind_true fun _ => rfl]
    rw [bindAll, bindAll, hpiece, ih]

theorem any_isOpenBrace {pieces : List Token} :
    pieces.any (·.isOpenBrace) = true ↔ openBrace ∈ pieces := by
  rw [List.any_eq_true]
  constructor
  · rintro ⟨piece, hmem, hbrace⟩
    cases piece with
    | openBrace => exact hmem
    | _ => cases hbrace
  · exact fun h => ⟨_, h, rfl⟩

end Token

/-! ## Queries -/

section

variable {query : String} {row other : Row} {declared : NameSet}

theorem preBind_of_no_value (h : ∀ n, row.substitute? declared n = none) :
    preBind query row declared = .ok query := by
  rw [preBind, Row.renderable_eq_nil_iff.2 h]
  rfl

theorem preBind_of_value (h : ∃ n text, row.substitute? declared n = some text) :
    preBind query row declared =
      if (Token.scan query.toList).any (·.isOpenBrace) then
        .ok (String.ofList
          (Token.bindAll (row.renderable declared) false (Token.scan query.toList)))
      else .error .noGroupPattern := by
  have hvalues : (row.renderable declared).isEmpty = false := by
    rw [List.isEmpty_eq_false_iff, ne_eq, Row.renderable_eq_nil_iff]
    obtain ⟨n, text, hn⟩ := h
    intro hnone
    rw [hnone n] at hn
    cases hn
  rw [preBind]
  simp only [hvalues, Bool.false_eq_true, if_false]

/-- The values decide what a row gives. -/
theorem preBind_congr (h : other.substitute? declared = row.substitute? declared) (query : String) :
    preBind query other declared = preBind query row declared := by
  by_cases hvalue : ∃ n text, row.substitute? declared n = some text
  · have hlookup : ∀ n, (other.renderable declared).lookup n = (row.renderable declared).lookup n :=
      fun n => by rw [Row.lookup_renderable, Row.lookup_renderable, h]
    rw [preBind_of_value hvalue, preBind_of_value (h ▸ hvalue), Token.bindAll_congr hlookup]
  · have hnone : ∀ n, row.substitute? declared n = none := fun n =>
      Option.eq_none_iff_forall_ne_some.2 fun text hn => hvalue ⟨n, text, hn⟩
    rw [preBind_of_no_value hnone, preBind_of_no_value (h ▸ hnone)]

end

/-! ## Main result -/

/-- **Pre-binding substitutes exactly the variables that have a value.** A query is cut into pieces in
only one way, at the successive leftmost matches of their expressions. Without a value for any
variable it stays as it is. Otherwise it must have an opening brace among its pieces, and then it
gives the same pieces in the same order, but for the variables with a value, which become `(value AS
?name)` before the first opening brace and the value after it. Rows that bind the declared variables
to the same IRIs and literals give the same query.

**Proof sketch.** The pieces are those of the scan (`Token.cut_iff`); the values are looked up one by
one (`Row.lookup_renderable`) and put in before and after the brace (`Token.bindAll_of_openBrace`). -/
theorem preBind_substitutes (query : String) (row : Row) (declared : NameSet) :
    ∃ pieces, (∀ others, Token.Cut query.toList others ↔ others = pieces) ∧
      pieces.flatMap Token.chars = query.toList ∧
      ((∀ n, row.substitute? declared n = none) → preBind query row declared = .ok query) ∧
      ((∃ n text, row.substitute? declared n = some text) →
        (.openBrace ∉ pieces → preBind query row declared = .error .noGroupPattern) ∧
        ∀ front back, pieces = front ++ .openBrace :: back → .openBrace ∉ front →
          preBind query row declared = .ok (String.ofList
            (front.flatMap (·.projected (row.substitute? declared)) ++
              '\x7b' :: back.flatMap (·.replaced (row.substitute? declared))))) ∧
      ∀ other : Row, (∀ n ∈ declared, ∀ t : Term, t.isBlankNode = false →
        (other.get? n = some t ↔ row.get? n = some t)) →
          preBind query other declared = preBind query row declared := by
  refine ⟨Token.scan query.toList, fun others => Token.cut_iff, Token.flatMap_chars_scan _,
    preBind_of_no_value, fun hvalue => ⟨fun hbrace => ?_, fun front back hpieces hfront => ?_⟩,
    fun other hsame => preBind_congr (Row.substitute?_congr hsame) query⟩
  · rw [preBind_of_value hvalue, if_neg fun h => hbrace (Token.any_isOpenBrace.1 h)]
  · have hbrace : (Token.scan query.toList).any (·.isOpenBrace) = true :=
      Token.any_isOpenBrace.2 (by simp [hpieces])
    rw [preBind_of_value hvalue, if_pos hbrace, hpieces,
      Token.bindAll_of_openBrace Row.lookup_renderable hfront]

/-- The variable is bound with its name in the projection and without it in the pattern, and not at
all in the comment. -/
example : (preBind "SELECT ?x # ?x\n\x7b $x ?p ?xx \x7d" (.ofList [("x", .iri "a")])
    (.ofList ["x"])).toOption = some "SELECT (<a> AS ?x) # ?x\n\x7b <a> ?p ?xx \x7d" := by
  decide +kernel

end ServiceClause
