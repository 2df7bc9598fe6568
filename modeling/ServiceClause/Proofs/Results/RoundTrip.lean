import Mathlib.Data.List.Forall2
import ServiceClause.Results.Document
import ServiceClause.Proofs.Json.RoundTrip
import ServiceClause.Proofs.Names
import ServiceClause.Proofs.Rows

/-!
# Result documents are read back

Rows that are written as a result document are read back from it, whatever terms they hold. A
document does not keep the order of the bindings: a row that is read back has the variables of the
head first, in the order of the head, and its other variables after them in the order of their
names.

## Main definitions

* `ServiceClause.Row.arrangement` — the order of the variables of a row that is read back.
* `ServiceClause.Row.ArrangedBy` — a row with the same bindings in this order.

## Main statements

* `ServiceClause.RawSolution.decode_ofRow` — a solution is read back.
* `ServiceClause.solutionsJson_roundTrip` — a document is read back.
-/

set_option autoImplicit false

namespace ServiceClause

/-! ## Orders of variables -/

namespace Row

/-- The variables of a row in the order in which it is read back: those of the head first, each
once, and then the others in the order of their names. -/
def arrangement (row : Row) (head : List Name) : List Name :=
  head.eraseDups.filter (· ∈ row.names) ++ (row.nameSet.diff (NameSet.ofList head)).toList

/-- Whether a row has the same bindings as another one, arranged by a head. -/
structure ArrangedBy (given row : Row) (head : List Name) : Prop where
  /-- It has its variables in this order. -/
  names : given.names = row.arrangement head
  /-- It binds them to the same terms. -/
  terms : ∀ n, given.get? n = row.get? n

variable {row : Row} {head : List Name} {n : Name}

theorem mem_arrangement : n ∈ row.arrangement head ↔ n ∈ row.names := by
  by_cases h : n ∈ head <;> simp [arrangement, ← NameSet.mem_iff, h]

theorem nodup_arrangement (row : Row) (head : List Name) : (row.arrangement head).Nodup := by
  refine List.nodup_append.2 ⟨(nodup_eraseDups head).filter _, NameSet.nodup_toList _,
    fun a ha b hb => ?_⟩
  rintro rfl
  have hhead : a ∈ head := List.mem_eraseDups.1 (List.mem_filter.1 ha).1
  exact (NameSet.mem_diff.1 (NameSet.mem_iff.2 hb)).2 (NameSet.mem_ofList.2 hhead)

end Row

/-! ## Lists of bound variables -/

section

variable {α : Type} {f : Name → Option α} {l : List Name}

theorem lookup_filterMap (f : Name → Option α) (n : Name) (l : List Name) :
    (l.filterMap fun m => (f m).map (m, ·)).lookup n = if n ∈ l then f n else none := by
  induction l with
  | nil => rfl
  | cons m l ih =>
    by_cases h : n = m
    · subst h
      cases hn : f n with
      | none => simp [hn, ih]
      | some a => simp [hn]
    · cases hm : f m with
      | none => simp [hm, ih, h]
      | some a => simp [hm, List.lookup_cons, beq_eq_false_iff_ne.2 h, ih, h]

theorem keys_filterMap (h : ∀ n ∈ l, (f n).isSome = true) :
    (l.filterMap fun n => (f n).map (n, ·)).map Prod.fst = l := by
  induction l with
  | nil => rfl
  | cons n l ih =>
    obtain ⟨a, ha⟩ := Option.isSome_iff_exists.1 (h n List.mem_cons_self)
    simp [ha, ih fun m hm => h m (List.mem_cons_of_mem _ hm)]

end

/-! ## Solutions -/

namespace RawSolution

/-- How a row is written, as a list of bound variables. -/
theorem ofRow_eq (row : Row) : ofRow row =
    row.nameSet.toList.filterMap fun n => ((row.get? n).map ResultTerm.ofTerm).map (n, ·) := by
  simp [ofRow, Option.map_map, Function.comp_def]

/-- The term that a solution gives a variable is that of its row. -/
theorem term?_ofRow (row : Row) (n : Name) :
    (ofRow row).term? n = (row.get? n).map ResultTerm.ofTerm := by
  rw [term?, ofRow_eq, ← List.filterMap_reverse, lookup_filterMap]
  by_cases h : n ∈ row.names
  · rw [if_pos (List.mem_reverse.2 (Row.mem_nameSet.2 h))]
  · rw [if_neg fun hmem => h (Row.mem_nameSet.1 (List.mem_reverse.1 hmem)),
      Row.get?_eq_none_iff.2 h]
    rfl

theorem keys_ofRow (row : Row) : (ofRow row).keys = row.nameSet.toList := by
  rw [keys, ofRow_eq]
  refine keys_filterMap fun n hn => ?_
  rw [Option.isSome_map]
  exact Row.mem_names_iff.1 (Row.mem_nameSet.1 hn)

/-- The order of the variables of a solution is the arrangement of its row. -/
theorem order_ofRow (head : List Name) (row : Row) :
    order head (ofRow row) = row.arrangement head := by
  have hset : NameSet.ofList row.nameSet.toList = row.nameSet :=
    NameSet.ext_of_mem fun n => by rw [NameSet.mem_ofList, NameSet.mem_iff]
  have hkeys : ∀ n, row.nameSet.toList.contains n = decide (n ∈ row.names) := fun n => by
    rw [Bool.eq_iff_iff, List.contains_iff_mem, decide_eq_true_iff, ← NameSet.mem_iff,
      Row.mem_nameSet]
  rw [order, keys_ofRow, hset, Row.arrangement]
  simp only [hkeys]

/-- The bindings of a solution are those of its row. -/
theorem bindings_ofRow (row : Row) (names : List Name) :
    bindings (ofRow row) names = .ok (names.filterMap fun n => (row.get? n).map (n, ·)) := by
  induction names with
  | nil => rfl
  | cons n names ih =>
    rw [bindings, term?_ofRow, ih]
    cases hget : row.get? n with
    | none => simp [hget]
    | some t => simp [hget, bind, Except.bind, pure, Except.pure]

/-- A solution is read back as its row, arranged by the head. -/
theorem decode_ofRow (head : List Name) (row : Row) :
    ∃ given, decode head (ofRow row) = .ok given ∧ given.ArrangedBy row head := by
  have hkeys : Bindings.keys ((row.arrangement head).filterMap fun n =>
      (row.get? n).map (n, ·)) = row.arrangement head :=
    keys_filterMap fun n hn => Row.mem_names_iff.1 (Row.mem_arrangement.1 hn)
  have hnodup := hkeys ▸ row.nodup_arrangement head
  refine ⟨_, by rw [decode, order_ofRow, bindings_ofRow]; rfl, ?_, fun n => ?_⟩
  · rw [Row.ofList, Row.names_insertMany (by simpa [Row.names] using hnodup)]
    exact hkeys
  · rw [Row.ofList, Row.get?_insertMany hnodup, Bindings.find?_eq_lookup, lookup_filterMap]
    by_cases h : n ∈ row.names
    · rw [if_pos (Row.mem_arrangement.2 h)]
      exact Option.or_none
    · rw [if_neg fun hmem => h (Row.mem_arrangement.1 hmem), Row.get?_eq_none_iff.2 h]
      rfl

end RawSolution

/-! ## Documents -/

/-- The value of a member of an object. -/
def Json.member? (key : String) : Json → Option Json
  | .object members => members.lookup (some key)
  | _ => none

/-- The array of the solutions of some rows. -/
def bindingsJson (rows : List Row) : Json :=
  .array (rows.map fun r => (RawSolution.ofRow r).toJson)

theorem asList?_bindingsJson (rows : List Row) :
    Json.asList? RawSolution.ofJson? (bindingsJson rows) = some (rows.map RawSolution.ofRow) := by
  have h := Json.asList?_array RawSolution.ofJson?_toJson (rows.map RawSolution.ofRow)
  rw [List.map_map] at h
  exact h

/-- A document is understood as its head and its solutions. -/
theorem ofJson?_solutionsJson (head : List Name) (rows : List Row) :
    ResultDocument.ofJson? (solutionsJson head rows) =
      some ⟨head, some (rows.map RawSolution.ofRow), none⟩ := by
  have hnames : Json.asList? Json.asText? (.strings head) = some head :=
    @Json.asList?_array String Json.text Json.asText? (fun _ => rfl) head
  have hhead : ResultDocument.headOfJson? (.record [("vars", some (.strings head))]) =
      some head := hnames
  have hbody : ResultDocument.bodyOfJson? (.record [("bindings", some (bindingsJson rows))]) =
      some (rows.map RawSolution.ofRow) := asList?_bindingsJson rows
  have hfields : ResultDocument.shape.fields? (solutionsJson head rows) =
      some [some (.record [("vars", some (.strings head))]),
        some (.record [("bindings", some (bindingsJson rows))]), none] := rfl
  have hresults : Json.optional? ResultDocument.bodyOfJson?
      (some (.record [("bindings", some (bindingsJson rows))])) =
        some (some (rows.map RawSolution.ofRow)) := by
    change (ResultDocument.bodyOfJson? _).map some = _
    rw [hbody]
    rfl
  rw [ResultDocument.ofJson?, hfields]
  simp only [Option.bind_eq_bind, Option.bind_some, Json.default?, hhead, hresults]
  rfl

/-- The solutions of rows are read back, each as its row arranged by the head. -/
theorem exists_decoded (head : List Name) (rows : List Row) :
    ∃ given : List Row, (rows.map RawSolution.ofRow).map (RawSolution.decode head) = given.map .ok ∧
      List.Forall₂ (fun given row => given.ArrangedBy row head) given rows := by
  induction rows with
  | nil => exact ⟨[], rfl, .nil⟩
  | cons row rows ih =>
    obtain ⟨given, hgiven, harranged⟩ := ih
    obtain ⟨first, hfirst, hrow⟩ := RawSolution.decode_ofRow head row
    exact ⟨first :: given, by simp only [List.map_cons, hfirst, hgiven], .cons hrow harranged⟩

theorem mapM_eq_ok {α β ε : Type} {f : α → Except ε β} {l : List α} {given : List β}
    (h : l.map f = given.map .ok) : l.mapM f = .ok given := by
  induction l generalizing given with
  | nil =>
    obtain rfl := List.map_eq_nil_iff.1 h.symm
    rfl
  | cons a l ih =>
    cases given with
    | nil => simp at h
    | cons b given =>
      obtain ⟨ha, hl⟩ := List.cons.inj h
      rw [List.mapM_cons, ha, ih hl]
      rfl

theorem mapM_eq_ok_iff {α β ε : Type} {f : α → Except ε β} {l : List α} {given : List β} :
    l.mapM f = .ok given ↔ l.map f = given.map .ok := by
  refine ⟨fun h => ?_, mapM_eq_ok⟩
  induction l generalizing given with
  | nil =>
    obtain rfl := Except.ok.inj h
    rfl
  | cons a l ih =>
    rw [List.mapM_cons] at h
    cases ha : f a with
    | error e =>
      rw [ha] at h
      cases h
    | ok b =>
      cases hl : l.mapM f with
      | error e =>
        rw [ha, hl] at h
        cases h
      | ok rest =>
        rw [ha, hl] at h
        obtain rfl := Except.ok.inj h
        rw [List.map_cons, List.map_cons, ha, ih hl]

/-! ## Values made of texts -/

theorem textual_term (t : ResultTerm) : t.toJson.Textual := by
  have hoption : ∀ (s? : Option String) v, s?.map Json.text = some v → v.Textual := by
    intro s? v hv
    obtain ⟨s, -, rfl⟩ := Option.map_eq_some_iff.1 hv
    exact .text s
  refine Json.textual_record fun m hm v hv => ?_
  simp only [List.mem_cons, List.not_mem_nil, or_false] at hm
  rcases hm with rfl | rfl | rfl | rfl
  · exact hoption _ v hv
  · exact hoption (some _) v hv
  · exact hoption (some _) v hv
  · exact hoption _ v hv

theorem textual_toJson (raw : RawSolution) : raw.toJson.Textual := by
  have hform : raw.toJson = .object
      ((raw.map fun m => (m.1, m.2.toJson)).map fun m => (some m.1, m.2)) := by
    simp [RawSolution.toJson]
  rw [hform]
  refine .object fun m hm => ?_
  obtain ⟨written, -, rfl⟩ := List.mem_map.1 hm
  exact textual_term written.2

theorem textual_bindingsJson (rows : List Row) : (bindingsJson rows).Textual := by
  refine .array fun v hv => ?_
  obtain ⟨row, -, rfl⟩ := List.mem_map.1 hv
  exact textual_toJson _

theorem textual_solutionsJson (head : List Name) (rows : List Row) :
    (solutionsJson head rows).Textual := by
  refine Json.textual_record fun m hm v hv => ?_
  rcases List.mem_cons.1 hm with rfl | hm
  · exact Option.some.inj hv ▸ Json.textual_field (Json.textual_strings head)
  · obtain rfl := List.mem_singleton.1 hm
    exact Option.some.inj hv ▸ Json.textual_field (textual_bindingsJson rows)

/-! ## Main result -/

/-- **Result documents are read back.** Let rows be written as a result document with some variables
as its head. Whatever document denotes the same value is read as that head and as many rows, none of
them an error, and each has the bindings of the row that it was written for, first those of the head
in its order and then the others in the order of their names. The array of its solutions is read, as
rows at hand, as the same rows with all bindings in the order of their names. The texts that are
written for people are documents that denote these values. In particular every term is understood as
the term that it was written for.

**Proof sketch.** A solution holds the terms of its row (`RawSolution.term?_ofRow`), so it is
decoded as the row that has the same bindings in the new order (`RawSolution.decode_ofRow`). The
values are made of texts and therefore read back (`Json.read_pretty`). -/
theorem solutionsJson_roundTrip (head : List Name) (rows : List Row) :
    (∀ document, Json.read document = some (solutionsJson head rows) →
      ∃ given : List Row, Solutions.read document = .ok ⟨head, given.map .ok⟩ ∧
        List.Forall₂ (fun given row => given.ArrangedBy row head) given rows) ∧
    (∃ bindings, ((solutionsJson head rows).member? "results").bind (·.member? "bindings") =
        some bindings ∧
      ∀ document, Json.read document = some bindings →
        ∃ given : List Row, readRows document = .ok given ∧
          List.Forall₂ (fun given row => given.ArrangedBy row []) given rows) ∧
    (∀ v ∈ [solutionsJson head rows, bindingsJson rows], Json.read (symbolsOf v.pretty) = some v) ∧
    ∀ t : Term, (ResultTerm.ofTerm t).toTerm = .ok t := by
  refine ⟨fun document hdocument => ?_, ⟨bindingsJson rows, rfl, fun document hdocument => ?_⟩,
    fun v hv => ?_, ResultTerm.toTerm_ofTerm⟩
  · obtain ⟨given, hgiven, harranged⟩ := exists_decoded head rows
    refine ⟨given, ?_, harranged⟩
    rw [Solutions.read, ResultDocument.read, hdocument]
    simp only [ofJson?_solutionsJson]
    rw [← hgiven]
    rfl
  · obtain ⟨given, hgiven, harranged⟩ := exists_decoded [] rows
    refine ⟨given, ?_, harranged⟩
    rw [readRows, hdocument]
    simp only [rowsOfJson?, asList?_bindingsJson, Option.map_some, Option.getD_some]
    exact mapM_eq_ok hgiven
  · rcases List.mem_cons.1 hv with rfl | hv
    · exact Json.read_pretty (textual_solutionsJson head rows)
    · obtain rfl := List.mem_singleton.1 hv
      exact Json.read_pretty (textual_bindingsJson rows)

/-- A row with a blank node, a literal in a language, and a resource. -/
def describedRow : Row :=
  ((Row.empty.insert "z" (.blankNode "b0")).insert "x"
    (.literal ⟨"say \"a\"\n\x01", .language "en"⟩)).insert "a" (.iri "http://example.org/a")

/-- The variable of the head comes first when this row is read back, and the others follow in the
order of their names. As a row at hand it has all of them in that order. -/
theorem described_readBack :
    (∃ given : Row,
      Solutions.read (symbolsOf (solutionsJson ["y", "x", "x"] [describedRow]).pretty) =
        .ok ⟨["y", "x", "x"], [.ok given]⟩ ∧
      given.names = ["x", "a", "z"] ∧
        given.get? "x" = some (.literal ⟨"say \"a\"\n\x01", .language "en"⟩)) ∧
    ∃ given : Row, readRows (symbolsOf (bindingsJson [describedRow]).pretty) = .ok [given] ∧
      given.names = ["a", "x", "z"] := by
  obtain ⟨hdocument, ⟨bindings, hbindings, hrows⟩, hpretty, -⟩ :=
    solutionsJson_roundTrip ["y", "x", "x"] [describedRow]
  obtain rfl := Option.some.inj hbindings
  obtain ⟨given, hread, harranged⟩ := hdocument _ (hpretty _ List.mem_cons_self)
  obtain ⟨given', hread', harranged'⟩ :=
    hrows _ (hpretty _ (List.mem_cons_of_mem _ List.mem_cons_self))
  cases harranged with
  | cons hrow hrest =>
    cases hrest
    cases harranged' with
    | cons hrow' hrest' =>
      cases hrest'
      refine ⟨⟨_, hread, hrow.names.trans (by decide +kernel), ?_⟩,
        ⟨_, hread', hrow'.names.trans (by decide +kernel)⟩⟩
      rw [hrow.terms]
      decide +kernel

end ServiceClause
