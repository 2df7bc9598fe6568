import Mathlib.Data.List.Basic
import ServiceClause.Proofs.Joins.InnerPulls
import ServiceClause.Proofs.Numerals
import ServiceClause.Query.InlineData

/-!
# Joining by the row index

The rows of a batch are numbered in its inline data, and an endpoint gives the numbers back with its
rows. A remote row is joined to the input row whose number its row index denotes. It is dropped if
the row index is missing, denotes no number, or denotes one that no input row has.

## Main definitions

* `ServiceClause.Row.NamesInput` — a remote row whose row index denotes a number.
* `ServiceClause.Row.Returns` — a remote row that bears a number as it was sent.
* `ServiceClause.Joined` — what remote items give, one by one.

## Main statements

* `ServiceClause.joinNamed_eq_some_iff`, `ServiceClause.joinNamed_eq_none_iff` — what a single
  remote row gives.
* `ServiceClause.InlineData.tuples_eq_ok` — the numbers in the inline data.
* `ServiceClause.RowSequence.join_by_index` — what a joined sequence gives.
-/

set_option autoImplicit false

namespace ServiceClause

/-! ## Remote rows -/

/-- Whether the value of the row index of a remote row, an IRI, a literal or a blank node, denotes
the number `i`. -/
def Row.NamesInput (remote : Row) (index : Name) (i : Nat) : Prop :=
  ∃ value, remote.get? index = some value ∧ Denotes value.value.toList i

/-- Whether a remote row bears the number `i` as inline data has it, perhaps between white space. -/
def Row.Returns (remote : Row) (index : Name) (i : Nat) : Prop :=
  ∃ value before after, remote.get? index = some value ∧
    value.value.toList = before ++ ((toString i).toList ++ after) ∧
    (∀ c ∈ before, isBlank c = true) ∧ (∀ c ∈ after, isBlank c = true)

section

variable {inputs : List Row} {index : Name} {remote row : Row} {i j : Nat}

/-- A remote row names one input at most. -/
theorem Row.NamesInput.unique (hi : remote.NamesInput index i) (hj : remote.NamesInput index j) :
    i = j := by
  obtain ⟨value, hget, hdenotes⟩ := hi
  obtain ⟨value', hget', hdenotes'⟩ := hj
  obtain rfl := Option.some.inj (hget.symm.trans hget')
  exact hdenotes.unique hdenotes'

/-- A row that bears a number names the input with that number and no other. -/
theorem Row.Returns.namesInput_iff (h : remote.Returns index i) :
    remote.NamesInput index j ↔ j = i := by
  obtain ⟨value, before, after, hget, hvalue, hbefore, hafter⟩ := h
  have hdenotes : Denotes value.value.toList i := by
    rw [hvalue]
    exact (denotes_padded_iff hbefore hafter).2 rfl
  have hi : remote.NamesInput index i := ⟨value, hget, hdenotes⟩
  constructor
  · exact fun hj => hj.unique hi
  · rintro rfl
    exact hi

theorem namedRow_eq_some_iff {input : Row} : namedRow inputs index remote = some input ↔
    ∃ i, remote.NamesInput index i ∧ inputs[i]? = some input := by
  unfold namedRow
  simp only [Option.bind_eq_bind, Option.bind_eq_some_iff, natural?_trimBlanks_eq_some_iff]
  constructor
  · rintro ⟨value, hget, i, hdenotes, hinput⟩
    exact ⟨i, ⟨value, hget, hdenotes⟩, hinput⟩
  · rintro ⟨i, ⟨value, hget, hdenotes⟩, hinput⟩
    exact ⟨value, hget, i, hdenotes, hinput⟩

/-- A remote row is joined to the input that it names. -/
theorem joinNamed_eq_some_iff : joinNamed inputs index remote = some row ↔
    ∃ i input, remote.NamesInput index i ∧ inputs[i]? = some input ∧
      row = input.merge (remote.erase index) := by
  rw [joinNamed, Option.map_eq_some_iff]
  simp only [namedRow_eq_some_iff]
  constructor
  · rintro ⟨input, ⟨i, hnames, hinput⟩, rfl⟩
    exact ⟨i, input, hnames, hinput, rfl⟩
  · rintro ⟨i, input, hnames, hinput, rfl⟩
    exact ⟨input, ⟨i, hnames, hinput⟩, rfl⟩

/-- A remote row is dropped if it names none of the inputs. -/
theorem joinNamed_eq_none_iff :
    joinNamed inputs index remote = none ↔ ∀ i < inputs.length, ¬ remote.NamesInput index i := by
  rw [Option.eq_none_iff_forall_ne_some]
  constructor
  · intro h i hi hnames
    exact h _ (joinNamed_eq_some_iff.2 ⟨i, inputs[i], hnames, List.getElem?_eq_getElem hi, rfl⟩)
  · intro h row hrow
    obtain ⟨i, input, hnames, hinput, -⟩ := joinNamed_eq_some_iff.1 hrow
    exact h i (List.getElem?_eq_some_iff.1 hinput).1 hnames

/-- An input that a remote row does not name plays no part in joining it. -/
theorem joinNamed_set (h : ¬ remote.NamesInput index i) (other : Row) :
    joinNamed (inputs.set i other) index remote = joinNamed inputs index remote := by
  refine Option.ext fun row => ?_
  rw [joinNamed_eq_some_iff, joinNamed_eq_some_iff]
  refine exists_congr fun j => exists_congr fun input => and_congr_right fun hj => ?_
  have hij : i ≠ j := by
    rintro rfl
    exact h hj
  rw [List.getElem?_set_ne hij]

/-- The input row that a remote row names, its number calculated with numbers below a bound. -/
def namedRowBelow (bound : Nat) (inputs : List Row) (index : Name) (remote : Row) : Option Row := do
  let value ← remote.get? index
  let i ← naturalBelow? bound (trimBlanks value.value.toList)
  inputs[i]?

/-- A bound that no number of an input reaches makes no difference. -/
theorem namedRowBelow_eq {bound : Nat} (hbound : 0 < bound) (hlength : inputs.length ≤ bound) :
    namedRowBelow bound inputs index remote = namedRow inputs index remote := by
  unfold namedRowBelow namedRow
  refine Option.bind_congr fun value _ => ?_
  rw [naturalBelow?_eq hbound]
  cases natural? (trimBlanks value.value.toList) with
  | none => rfl
  | some i =>
    rw [Option.filter_some]
    split
    · rfl
    · next hreached =>
      have hi : inputs.length ≤ i := hlength.trans (by simpa using hreached)
      exact (List.getElem?_eq_none hi).symm

end

/-! ## Remote items -/

/-- What remote items give that are joined to the inputs: an error is given in its place, a row that
names an input is joined to it, and another row gives nothing. -/
inductive Joined (inputs : List Row) (index : Name) : List Item → List Item → Prop
  | nil : Joined inputs index [] []
  | error {e : FederationError} {items given : List Item}
    (hrest : Joined inputs index items given) :
    Joined inputs index (.error e :: items) (.error e :: given)
  | joined {remote input : Row} {i : Nat} {items given : List Item}
    (hnames : remote.NamesInput index i) (hinput : inputs[i]? = some input)
    (hrest : Joined inputs index items given) :
    Joined inputs index (.ok remote :: items) (.ok (input.merge (remote.erase index)) :: given)
  | dropped {remote : Row} {items given : List Item}
    (hnone : ∀ i < inputs.length, ¬ remote.NamesInput index i)
    (hrest : Joined inputs index items given) : Joined inputs index (.ok remote :: items) given

section

variable {inputs : List Row} {index : Name} {items given : List Item}

/-- Every list of remote items gives one list. -/
theorem joined_iff : Joined inputs index items given ↔
    given = joinItems (joinNamed inputs index) items := by
  constructor
  · intro h
    induction h with
    | nil => rfl
    | error hrest ih => rw [joinItems_cons_error, ih]
    | joined hnames hinput hrest ih =>
      rw [joinItems_cons_of_some (joinNamed_eq_some_iff.2 ⟨_, _, hnames, hinput, rfl⟩), ih]
    | dropped hnone hrest ih => rw [joinItems_cons_of_none (joinNamed_eq_none_iff.2 hnone), ih]
  · rintro rfl
    induction items with
    | nil => exact .nil
    | cons item items ih =>
      cases item with
      | error e => exact .error ih
      | ok remote =>
        cases hplace : joinNamed inputs index remote with
        | none =>
          rw [joinItems_cons_of_none hplace]
          exact .dropped (joinNamed_eq_none_iff.1 hplace) ih
        | some row =>
          rw [joinItems_cons_of_some hplace]
          obtain ⟨i, input, hnames, hinput, rfl⟩ := joinNamed_eq_some_iff.1 hplace
          exact .joined hnames hinput ih

/-- Remote rows that bear numbers of inputs are joined to these. -/
theorem joinItems_of_returns {returned : List (Fin inputs.length × Row)}
    (h : ∀ r ∈ returned, r.2.Returns index r.1) :
    joinItems (joinNamed inputs index) (returned.map fun r => .ok r.2) =
      returned.map fun r => .ok (inputs[r.1].merge (r.2.erase index)) := by
  induction returned with
  | nil => rfl
  | cons r returned ih =>
    have hnames : r.2.NamesInput index r.1 := (h r List.mem_cons_self).namesInput_iff.2 rfl
    have hplace : joinNamed inputs index r.2 = some (inputs[r.1].merge (r.2.erase index)) :=
      joinNamed_eq_some_iff.2 ⟨r.1, inputs[r.1], hnames, List.getElem?_eq_getElem r.1.2, rfl⟩
    rw [List.map_cons, joinItems_cons_of_some hplace,
      ih fun r hr => h r (List.mem_cons_of_mem _ hr), List.map_cons]

/-- An input that no remote row names plays no part. -/
theorem joinItems_set {i : Nat} (h : ∀ remote, .ok remote ∈ items → ¬ remote.NamesInput index i)
    (other : Row) : joinItems (joinNamed (inputs.set i other) index) items =
      joinItems (joinNamed inputs index) items := by
  refine List.filterMap_congr fun item hitem => ?_
  cases item with
  | error e => rfl
  | ok remote => exact congrArg (Option.map Except.ok) (joinNamed_set (h remote hitem) other)

end

/-! ## Inline data -/

namespace InlineData

/-- The tuple of a row with the number `i`, given the text of its cells. -/
def tuple (i : Nat) (cells : String) : String := " (\"" ++ toString i ++ "\" " ++ cells ++ ")"

/-- Tuples are numbered one after another.

**Proof sketch.** Induction on the rows. The number of the first one is arbitrary, since it is one
more for the rows that are left. -/
theorem tuples_eq_ok {names : List Name} {batch : List Row} {index : Nat} {text : String}
    (h : tuples names index batch = .ok text) :
    ∃ texts, List.Forall₂ (fun row text => cells row names = .ok text) batch texts ∧
      text = String.join (texts.mapIdx fun i => tuple (index + i)) := by
  induction batch generalizing index text with
  | nil => exact ⟨[], .nil, (Except.ok.inj h).symm⟩
  | cons row rest ih =>
    rw [tuples] at h
    cases hcells : cells row names with
    | error e => simp [hcells, bind, Except.bind] at h
    | ok first =>
      cases hothers : tuples names (index + 1) rest with
      | error e => simp [hcells, hothers, bind, Except.bind] at h
      | ok others =>
        rw [hcells, hothers] at h
        obtain rfl := Except.ok.inj h
        obtain ⟨texts, htexts, rfl⟩ := ih hothers
        have hindex : ∀ i, index + 1 + i = index + (i + 1) := fun i => by omega
        refine ⟨first :: texts, .cons hcells htexts, ?_⟩
        simp [List.mapIdx_cons, hindex, tuple, String.join_cons]

end InlineData

/-- Inline data numbers the rows from zero on. -/
theorem inlineData_eq_ok {names : List Name} {batch : List Row} {index : Name} {text : String}
    (h : inlineData batch names index = .ok text) :
    ∃ texts, List.Forall₂ (fun row text => InlineData.cells row names = .ok text) batch texts ∧
      text = InlineData.header index names ++ String.join (texts.mapIdx InlineData.tuple) ++
        " \x7d" := by
  rw [inlineData] at h
  cases htuples : InlineData.tuples names 0 batch with
  | error e => simp [htuples, bind, Except.bind] at h
  | ok tuples =>
    rw [htuples] at h
    obtain rfl := Except.ok.inj h
    obtain ⟨texts, htexts, rfl⟩ := InlineData.tuples_eq_ok htuples
    exact ⟨texts, htexts, by simp⟩

/-! ## Main result -/

/-- **Joining by the row index.** Whatever items a remote sequence gives, joining them to the inputs
gives its errors in their places and every remote row that names an input joined to this input,
without its row index; other rows give nothing. A pull ends, in whatever state: it pulls from the
remote sequence at most once for every item that is left, and once more. Calculating numbers below
a bound makes no difference unless there are more inputs than that.

So the numbers in the inline data of the inputs lead back to them. A remote row that bears the
number of an input as it was sent, perhaps between white space, names this input and no other. Rows
that all do so are joined to these inputs one by one, in whatever order and however often each of
them is returned. An input that no remote row names plays no part.

**Proof sketch.** What a single remote row gives is a matter of what its row index denotes
(`joinNamed_eq_some_iff`, `joinNamed_eq_none_iff`), and the digits of a number denote nothing else
(`denotes_padded_iff`). -/
theorem RowSequence.join_by_index (remote : RowSequence) (inputs : List Row) (index : Name) :
    (∀ given, Joined inputs index remote.toList given ↔
      given = (remote.join inputs index).toList) ∧
    (∀ s n, ∃ k, 1 ≤ k ∧ k ≤ (remote.pipeline.iterator.drain s).length + 1 ∧
      (remote.pipeline.iterator.counting.join (joinNamed inputs index)).next (s, n) =
        (((remote.join inputs index).pipeline.iterator.next s).1,
          (((remote.join inputs index).pipeline.iterator.next s).2, n + k))) ∧
    (∀ bound row, 0 < bound → inputs.length ≤ bound →
      namedRowBelow bound inputs index row = namedRow inputs index row) ∧
    (∀ names text, inlineData inputs names index = .ok text →
      ∃ texts, List.Forall₂ (fun row text => InlineData.cells row names = .ok text) inputs texts ∧
        text = InlineData.header index names ++ String.join (texts.mapIdx InlineData.tuple) ++
          " \x7d") ∧
    (∀ i (row : Row), row.Returns index i → ∀ j, row.NamesInput index j ↔ j = i) ∧
    (∀ returned : List (Fin inputs.length × Row), (∀ r ∈ returned, r.2.Returns index r.1) →
      remote.toList = returned.map (fun r => .ok r.2) →
      (remote.join inputs index).toList =
        returned.map fun r => .ok (inputs[r.1].merge (r.2.erase index))) ∧
    ∀ i other, (∀ row : Row, .ok row ∈ remote.toList → ¬ row.NamesInput index i) →
      (remote.join (inputs.set i other) index).toList = (remote.join inputs index).toList := by
  refine ⟨fun given => ?_, fun s n => ?_, fun bound row => namedRowBelow_eq,
    fun names text => inlineData_eq_ok, fun i row h j => h.namesInput_iff,
    fun returned hreturned hremote => ?_, fun i other h => ?_⟩
  · rw [toList_join]
    exact joined_iff
  · exact remote.pipeline.iterator.joinNext_counting (joinNamed inputs index) s n
  · rw [toList_join, hremote]
    exact joinItems_of_returns hreturned
  · rw [toList_join, toList_join]
    exact joinItems_set h other

/-- A row for the thing with this name. -/
def thingRow (text : String) : Row := Row.empty.insert "x" (.literal (.plain text))

/-- A remote row with a row index. -/
def sizeRow (tag : Term) (text : String) : Row :=
  (Row.empty.insert "__rowIdx" tag).insert "size" (.literal (.plain text))

/-- What an endpoint returns for two of three things: once a literal as it was sent, once an IRI and
once a blank node, both with white space. -/
def returnedSizes : List (Fin 3 × Row) :=
  [(2, sizeRow (.iri "\t2 ") "7"), (0, sizeRow (.literal (.plain "0")) "5"),
    (2, sizeRow (.blankNode " 2") "8")]

/-- Two of three things are joined to the sizes that are returned for them; the second thing plays
no part. -/
theorem returnedSizes_joined :
    ((RowSequence.ofRows (returnedSizes.map Prod.snd)).join
      [thingRow "a", thingRow "b", thingRow "c"] "__rowIdx").toList.map Except.toOption =
        [some ((thingRow "c").insert "size" (.literal (.plain "7"))),
          some ((thingRow "a").insert "size" (.literal (.plain "5"))),
          some ((thingRow "c").insert "size" (.literal (.plain "8")))] ∧
    ∀ other, ((RowSequence.ofRows (returnedSizes.map Prod.snd)).join
      [thingRow "a", other, thingRow "c"] "__rowIdx").toList =
        ((RowSequence.ofRows (returnedSizes.map Prod.snd)).join
          [thingRow "a", thingRow "b", thingRow "c"] "__rowIdx").toList := by
  obtain ⟨-, -, -, -, hnames, hreturned, hother⟩ :=
    (RowSequence.ofRows (returnedSizes.map Prod.snd)).join_by_index
      [thingRow "a", thingRow "b", thingRow "c"] "__rowIdx"
  have hreturns : ∀ r ∈ returnedSizes, r.2.Returns "__rowIdx" r.1 := by
    refine List.forall_mem_cons.2 ⟨?_, List.forall_mem_cons.2 ⟨?_, List.forall_mem_singleton.2 ?_⟩⟩
    · exact ⟨.iri "\t2 ", ['\t'], [' '], by decide +kernel, by decide +kernel,
        List.forall_mem_singleton.2 rfl, List.forall_mem_singleton.2 rfl⟩
    · exact ⟨.literal (.plain "0"), [], [], by decide +kernel, by decide +kernel,
        List.forall_mem_nil _, List.forall_mem_nil _⟩
    · exact ⟨.blankNode " 2", [' '], [], by decide +kernel, by decide +kernel,
        List.forall_mem_singleton.2 rfl, List.forall_mem_nil _⟩
  refine ⟨?_, fun other => hother 1 other fun row hrow hsecond => ?_⟩
  · rw [hreturned returnedSizes hreturns (by simp)]
    decide +kernel
  · obtain ⟨r, hr, rfl⟩ : ∃ r ∈ returnedSizes, r.2 = row := by simpa using hrow
    have hnone : ∀ r ∈ returnedSizes, 1 ≠ (r.1 : Nat) := by decide +kernel
    exact hnone r hr ((hnames r.1 r.2 (hreturns r hr) 1).1 hsecond)

end ServiceClause
