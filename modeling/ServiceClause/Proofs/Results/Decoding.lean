import ServiceClause.Proofs.ByteOrder
import ServiceClause.Proofs.Pulls
import ServiceClause.Proofs.Results.RoundTrip

/-!
# How solutions are decoded

The terms of a solution have no order of their own. The row that is decoded from them has the
variables of the head first, in the order of their first places there, and the other variables after
them in the order of their bytes. In this order the first term of an unknown kind is the error.

## Main definitions

* `ServiceClause.ResultTerm.knownKinds` — the kinds of terms that are understood.
* `ServiceClause.ComesBefore` — the order of variables that a head gives rise to.
* `ServiceClause.RawSolution.Unknown` — variables with a term of an unknown kind.
* `ServiceClause.RawSolution.DecodesTo` — the row that a solution stands for.
* `ServiceClause.RawSolution.consume` — reading a solution by taking its terms out.

## Main statements

* `ServiceClause.RawSolution.pairwise_order` — the variables of a solution are in order.
* `ServiceClause.RawSolution.decode_cases` — the row or the error that a solution gives.
* `ServiceClause.RawSolution.consume_eq_decode` — the order of the entries does not matter.
* `ServiceClause.RawSolution.decode_inHeadOrder` — when a solution is decoded to which row or error.
-/

set_option autoImplicit false

namespace ServiceClause

/-! ## Terms -/

namespace ResultTerm

/-- The kinds of terms that are understood. -/
def knownKinds : List String := ["uri", "literal", "typed-literal", "bnode"]

/-- A term is understood exactly if its kind is known. -/
theorem toTerm_cases (t : ResultTerm) :
    (t.kind ∈ knownKinds ∧ ∃ term, t.toTerm = .ok term) ∨
      (t.kind ∉ knownKinds ∧ t.toTerm = .error (.unknownTermKind t.kind)) := by
  unfold toTerm
  split
  · next hkind => exact .inl ⟨by simp [hkind, knownKinds], _, rfl⟩
  · next hkind => exact .inl ⟨by simp [hkind, knownKinds], _, rfl⟩
  · next hkind => exact .inl ⟨by simp [hkind, knownKinds], _, rfl⟩
  · next hkind => exact .inl ⟨by simp [hkind, knownKinds], _, rfl⟩
  · next huri hliteral htyped hbnode =>
    refine .inr ⟨fun hkind => ?_, rfl⟩
    simp only [knownKinds, List.mem_cons, List.not_mem_nil, or_false] at hkind
    rcases hkind with hkind | hkind | hkind | hkind
    · exact huri hkind
    · exact hliteral hkind
    · exact htyped hkind
    · exact hbnode hkind

theorem exists_toTerm {t : ResultTerm} (h : t.kind ∈ knownKinds) : ∃ term, t.toTerm = .ok term := by
  rcases t.toTerm_cases with ⟨-, hterm⟩ | ⟨hkind, -⟩
  · exact hterm
  · exact absurd h hkind

theorem toTerm_of_unknown {t : ResultTerm} (h : t.kind ∉ knownKinds) :
    t.toTerm = .error (.unknownTermKind t.kind) := by
  rcases t.toTerm_cases with ⟨hkind, -⟩ | ⟨-, hterm⟩
  · exact absurd hkind h
  · exact hterm

end ResultTerm

/-! ## The order of variables -/

/-- Whether `a` comes before `b` in the rows decoded with a head: its first place in the head comes
before that of `b`, or neither has one and its bytes come before those of `b`. -/
def ComesBefore (head : List Name) (a b : Name) : Prop :=
  head.idxOf a < head.idxOf b ∨ a ∉ head ∧ b ∉ head ∧ utf8Bytes a < utf8Bytes b

section

variable {head l k : List Name} {a b : Name}

theorem ComesBefore.asymm (h : ComesBefore head a b) : ¬ ComesBefore head b a := by
  rintro (hplace | ⟨hb, ha, hbytes⟩)
  · rcases h with h | ⟨ha, hb, -⟩
    · omega
    · rw [List.idxOf_eq_length ha, List.idxOf_eq_length hb] at hplace
      omega
  · rcases h with h | ⟨-, -, h⟩
    · rw [List.idxOf_eq_length ha, List.idxOf_eq_length hb] at h
      omega
    · exact List.lt_asymm h hbytes

theorem comesBefore_cons {n : Name} (h : b ≠ n) : ComesBefore (n :: head) n b := by
  rw [ComesBefore, List.idxOf_cons_self, List.idxOf_cons_ne _ (Ne.symm h)]
  exact .inl (Nat.succ_pos _)

/-- One more variable in front of the head does not change the order of others. -/
theorem ComesBefore.cons {n : Name} (h : ComesBefore head a b) (ha : a ≠ n) (hb : b ≠ n) :
    ComesBefore (n :: head) a b := by
  rcases h with h | ⟨hna, hnb, h⟩
  · rw [ComesBefore, List.idxOf_cons_ne _ (Ne.symm ha), List.idxOf_cons_ne _ (Ne.symm hb)]
    exact .inl (Nat.succ_lt_succ h)
  · exact .inr ⟨List.not_mem_cons_of_ne_of_not_mem ha hna,
      List.not_mem_cons_of_ne_of_not_mem hb hnb, h⟩

/-- A list in the order of a head has no repetitions. -/
theorem nodup_of_comesBefore (h : l.Pairwise (ComesBefore head)) : l.Nodup :=
  h.imp fun hab hne => (hne ▸ hab).asymm (hne ▸ hab)

/-- There is only one list of given names in the order of a head. -/
theorem eq_of_comesBefore (hl : l.Pairwise (ComesBefore head)) (hk : k.Pairwise (ComesBefore head))
    (h : ∀ n, n ∈ l ↔ n ∈ k) : l = k :=
  ((List.perm_ext_iff_of_nodup (nodup_of_comesBefore hl) (nodup_of_comesBefore hk)).2
    h).eq_of_pairwise (fun _ _ _ _ hab hba => absurd hba hab.asymm) hl hk

end

namespace RawSolution

variable {head : List Name} {raw : RawSolution} {n m : Name} {row : Row}

theorem mem_keys_iff : n ∈ raw.keys ↔ ∃ t, raw.term? n = some t := by
  rw [term?, ← Option.isSome_iff_exists, List.lookup_isSome_iff]
  simp only [keys, List.mem_map, List.mem_reverse, beq_iff_eq]
  exact exists_congr fun p => and_congr_right fun _ => eq_comm

theorem mem_order : n ∈ order head raw ↔ ∃ t, raw.term? n = some t := by
  rw [← mem_keys_iff]
  by_cases h : n ∈ head <;> simp [order, ← NameSet.mem_iff, h]

/-- The variables of a solution are in the order of the head.

**Proof sketch.** Those of the head are in the order of their first places, the others in that of
their bytes, and a variable that the head does not mention is placed behind all that it does. -/
theorem pairwise_order (head : List Name) (raw : RawSolution) :
    (order head raw).Pairwise (ComesBefore head) := by
  refine List.pairwise_append.2 ⟨((pairwise_eraseDups head).imp .inl).filter _, ?_,
    fun a ha b hb => .inl ?_⟩
  · refine (NameSet.ascending _).imp_of_mem fun {a b} ha hb hab => .inr ⟨?_, ?_, ?_⟩
    · exact fun h => (NameSet.mem_diff.1 (NameSet.mem_iff.2 ha)).2 (NameSet.mem_ofList.2 h)
    · exact fun h => (NameSet.mem_diff.1 (NameSet.mem_iff.2 hb)).2 (NameSet.mem_ofList.2 h)
    · exact lt_iff_utf8Bytes_lt.1 hab
  · have hhead : a ∈ head := List.mem_eraseDups.1 (List.mem_filter.1 ha).1
    have hother : b ∉ head := fun h =>
      (NameSet.mem_diff.1 (NameSet.mem_iff.2 hb)).2 (NameSet.mem_ofList.2 h)
    rw [List.idxOf_eq_length hother]
    exact List.idxOf_lt_length_iff.2 hhead

/-! ## Rows and errors -/

/-- Whether the term of a variable has an unknown kind. -/
def Unknown (raw : RawSolution) (n : Name) : Prop :=
  ∃ t, raw.term? n = some t ∧ t.kind ∉ ResultTerm.knownKinds

/-- The row that a solution stands for: it binds the variables of the solution to what their terms
mean, in the order of the head. -/
structure DecodesTo (raw : RawSolution) (head : List Name) (row : Row) : Prop where
  /-- It binds the variables of the solution to what their terms mean. -/
  terms : ∀ n, (raw.term? n).map ResultTerm.toTerm = (row.get? n).map .ok
  /-- Its variables are in the order of the head. -/
  order : row.names.Pairwise (ComesBefore head)

theorem DecodesTo.mem_names (h : raw.DecodesTo head row) :
    n ∈ row.names ↔ ∃ t, raw.term? n = some t := by
  rw [Row.mem_names_iff, ← Option.isSome_iff_exists, ← Option.isSome_map (f := Except.ok),
    ← h.terms, Option.isSome_map]

/-- A solution stands for one row at most. -/
theorem DecodesTo.unique {other : Row} (h : raw.DecodesTo head row)
    (hother : raw.DecodesTo head other) : row = other := by
  refine Row.eq_of_get? (eq_of_comesBefore h.order hother.order fun n => ?_) fun n => ?_
  · rw [h.mem_names, hother.mem_names]
  · have hterms := (h.terms n).symm.trans (hother.terms n)
    exact Option.map_injective (fun _ _ => Except.ok.inj) hterms

theorem DecodesTo.not_unknown (h : raw.DecodesTo head row) : ¬ raw.Unknown n := by
  rintro ⟨t, ht, hkind⟩
  have hterm := h.terms n
  rw [ht, Option.map_some, ResultTerm.toTerm_of_unknown hkind] at hterm
  cases hget : row.get? n with
  | none => simp [hget] at hterm
  | some u => simp [hget] at hterm

/-- What the term of a variable means, if it is understood. -/
def meaning? (raw : RawSolution) (n : Name) : Option Term :=
  (raw.term? n).bind fun t => t.toTerm.toOption

/-- The bindings of some variables, or the error of the first of them whose term has an unknown
kind.

**Proof sketch.** Induction on the variables. -/
theorem bindings_cases (raw : RawSolution) (names : List Name) :
    (bindings raw names = .ok (names.filterMap fun n => (raw.meaning? n).map (n, ·)) ∧
      ∀ n ∈ names, ¬ raw.Unknown n) ∨
    ∃ before n after t, names = before ++ n :: after ∧ (∀ m ∈ before, ¬ raw.Unknown m) ∧
      raw.term? n = some t ∧ t.kind ∉ ResultTerm.knownKinds ∧
        bindings raw names = .error (.unknownTermKind t.kind) := by
  induction names with
  | nil => exact .inl ⟨rfl, fun m hm => (by cases hm)⟩
  | cons n names ih =>
    rcases ht : raw.term? n with _ | t
    · have hn : ¬ raw.Unknown n := by
        rintro ⟨t, hsome, -⟩
        rw [ht] at hsome
        cases hsome
      have hskip : bindings raw (n :: names) = bindings raw names := by rw [bindings, ht]
      rw [hskip, List.filterMap_cons_none (by simp [meaning?, ht])]
      rcases ih with ⟨hbindings, hnames⟩ | ⟨before, m, after, u, rfl, hbefore, hu⟩
      · exact .inl ⟨hbindings, List.forall_mem_cons.2 ⟨hn, hnames⟩⟩
      · exact .inr ⟨n :: before, m, after, u, rfl, List.forall_mem_cons.2 ⟨hn, hbefore⟩, hu⟩
    · rcases t.toTerm_cases with ⟨hkind, term, hterm⟩ | ⟨hkind, hterm⟩
      · have hn : ¬ raw.Unknown n := by
          rintro ⟨u, hsome, hu⟩
          rw [ht] at hsome
          exact hu (Option.some.inj hsome ▸ hkind)
        have hmeaning : (raw.meaning? n).map (n, ·) = some (n, term) := by
          simp [meaning?, ht, hterm, Except.toOption]
        rw [List.filterMap_cons_some (f := fun n => (raw.meaning? n).map (n, ·)) hmeaning]
        rw [bindings, ht]
        simp only [hterm]
        rcases ih with
          ⟨hbindings, hnames⟩ | ⟨before, m, after, u, rfl, hbefore, hget, hu, hbindings⟩
        · exact .inl ⟨by rw [hbindings]; rfl, List.forall_mem_cons.2 ⟨hn, hnames⟩⟩
        · exact .inr ⟨n :: before, m, after, u, rfl, List.forall_mem_cons.2 ⟨hn, hbefore⟩, hget, hu,
            by rw [hbindings]; rfl⟩
      · refine .inr ⟨[], n, names, t, rfl, fun m hm => (by cases hm), ht, hkind, ?_⟩
        rw [bindings, ht]
        simp only [hterm]
        rfl

theorem exists_meaning {t : ResultTerm} (ht : raw.term? n = some t) (hn : ¬ raw.Unknown n) :
    ∃ term, t.toTerm = .ok term ∧ raw.meaning? n = some term := by
  have hkind : t.kind ∈ ResultTerm.knownKinds := Decidable.not_not.1 fun hkind => hn ⟨t, ht, hkind⟩
  obtain ⟨term, hterm⟩ := ResultTerm.exists_toTerm hkind
  exact ⟨term, hterm, by simp [meaning?, ht, hterm, Except.toOption]⟩

/-- Without terms of unknown kinds a solution stands for what its terms mean, in the order of the
head. -/
theorem decodesTo_ofList (hknown : ∀ n ∈ order head raw, ¬ raw.Unknown n) :
    raw.DecodesTo head
      (Row.ofList ((order head raw).filterMap fun n => (raw.meaning? n).map (n, ·))) := by
  have hmeaning : ∀ n ∈ order head raw, (raw.meaning? n).isSome = true := by
    intro n hn
    obtain ⟨t, ht⟩ := mem_order.1 hn
    obtain ⟨term, -, hterm⟩ := exists_meaning ht (hknown n hn)
    rw [hterm, Option.isSome_some]
  have hkeys : Bindings.keys _ = order head raw := keys_filterMap hmeaning
  have hnodup := nodup_of_comesBefore (pairwise_order head raw)
  refine ⟨fun n => ?_, ?_⟩
  · rw [Row.ofList, Row.get?_insertMany (by rw [hkeys]; exact hnodup), Bindings.find?_eq_lookup,
      lookup_filterMap]
    cases ht : raw.term? n with
    | none =>
      have hn : n ∉ order head raw := fun hn => by
        obtain ⟨t, hsome⟩ := mem_order.1 hn
        rw [ht] at hsome
        cases hsome
      rw [if_neg hn]
      rfl
    | some t =>
      have hn : n ∈ order head raw := mem_order.2 ⟨t, ht⟩
      obtain ⟨term, hterm, hsome⟩ := exists_meaning ht (hknown n hn)
      rw [if_pos hn, hsome, Option.map_some, hterm]
      rfl
  · rw [Row.ofList, Row.names_insertMany (by rw [hkeys]; exact hnodup), hkeys]
    exact pairwise_order head raw

/-- A solution stands for a row, or it gives the error of the first variable whose term has an
unknown kind. -/
theorem decode_cases (head : List Name) (raw : RawSolution) :
    (∃ row, decode head raw = .ok row ∧ raw.DecodesTo head row) ∨
      ∃ n t, raw.term? n = some t ∧ t.kind ∉ ResultTerm.knownKinds ∧
        decode head raw = .error (.unknownTermKind t.kind) ∧
          ∀ m, raw.Unknown m → m = n ∨ ComesBefore head n m := by
  rcases bindings_cases raw (order head raw) with
    ⟨hbindings, hknown⟩ | ⟨before, n, after, t, horder, hbefore, ht, hkind, hbindings⟩
  · exact .inl ⟨_, by rw [decode, hbindings]; rfl, decodesTo_ofList hknown⟩
  · refine .inr ⟨n, t, ht, hkind, by rw [decode, hbindings]; rfl, fun m hm => ?_⟩
    have hpairwise := pairwise_order head raw
    obtain ⟨u, hu, -⟩ := id hm
    have hmem : m ∈ order head raw := mem_order.2 ⟨u, hu⟩
    rw [horder] at hmem hpairwise
    rcases List.mem_append.1 hmem with hmem | hmem
    · exact absurd hm (hbefore m hmem)
    · rcases List.mem_cons.1 hmem with hmem | hmem
      · exact .inl hmem
      · exact .inr ((List.pairwise_cons.1 (List.pairwise_append.1 hpairwise).2.1).1 m hmem)

/-! ## Taking the terms out -/

section

variable {entries : RawSolution}

/-- Whether the name of an entry does not come after that of another one. -/
def nameLe (a b : Name × ResultTerm) : Bool := decide (a.1 ≤ b.1)

theorem nameLe_trans (a b c : Name × ResultTerm) (hab : nameLe a b = true)
    (hbc : nameLe b c = true) : nameLe a c = true :=
  decide_eq_true (String.le_trans (of_decide_eq_true hab) (of_decide_eq_true hbc))

theorem nameLe_total (a b : Name × ResultTerm) : (nameLe a b || nameLe b a) = true := by
  simp [nameLe, String.le_total]

/-- Reads the terms of some entries into a row, one after another. -/
def readInto : Row → RawSolution → Except FederationError Row
  | row, [] => .ok row
  | row, (n, t) :: entries => do readInto (row.insert n (← t.toTerm)) entries

/-- Reads a solution by taking the terms out of its entries: those of the variables in `head` one
after another, and then what is left in the order of the names. It ends with the first error. -/
def consume : List Name → Row → RawSolution → Except FederationError Row
  | [], row, entries => readInto row (entries.mergeSort nameLe)
  | n :: head, row, entries =>
    match entries.lookup n with
    | none => consume head row entries
    | some t => do consume head (row.insert n (← t.toTerm)) (entries.filter (·.1 != n))

/-- The entries in the order in which they are taken out. -/
def arranged : List Name → RawSolution → RawSolution
  | [], entries => entries.mergeSort nameLe
  | n :: head, entries =>
    match entries.lookup n with
    | none => arranged head entries
    | some t => (n, t) :: arranged head (entries.filter (·.1 != n))

theorem consume_eq_readInto (head : List Name) (row : Row) (entries : RawSolution) :
    consume head row entries = readInto row (arranged head entries) := by
  induction head generalizing row entries with
  | nil => rfl
  | cons n head ih =>
    rw [consume, arranged]
    cases entries.lookup n with
    | none => exact ih row entries
    | some t =>
      simp only [readInto]
      exact congrArg _ (funext fun term => ih _ _)

theorem keys_perm {others : RawSolution} (h : entries.Perm others) :
    entries.keys.Perm others.keys :=
  h.map Prod.fst

theorem ne_of_nodup {before after : RawSolution} {t : ResultTerm} {e : Name × ResultTerm}
    (hnodup : (keys (before ++ (n, t) :: after)).Nodup) (he : e ∈ before ++ after) : e.1 ≠ n := by
  have hn := (List.nodup_cons.1 ((keys_perm List.perm_middle).nodup_iff.1 hnodup)).1
  exact fun hen => hn (List.mem_map.2 ⟨e, he, hen⟩)

theorem lookup_eq_some_iff {t : ResultTerm} (hnodup : entries.keys.Nodup) :
    entries.lookup n = some t ↔ (n, t) ∈ entries := by
  refine ⟨fun h => ?_, fun h => ?_⟩
  · obtain ⟨before, after, rfl, -⟩ := List.lookup_eq_some_iff.1 h
    simp
  · obtain ⟨before, after, rfl⟩ := List.append_of_mem h
    refine List.lookup_eq_some_iff.2 ⟨before, after, rfl, fun e he => bne_iff_ne.2 ?_⟩
    exact (ne_of_nodup hnodup (List.mem_append_left _ he)).symm

/-- Taking out an entry leaves the others. -/
theorem perm_cons_filter {t : ResultTerm} (hnodup : entries.keys.Nodup)
    (h : entries.lookup n = some t) : entries.Perm ((n, t) :: entries.filter (·.1 != n)) := by
  obtain ⟨before, after, rfl, -⟩ := List.lookup_eq_some_iff.1 h
  rw [List.filter_append, List.filter_cons_of_neg (by simp), ← List.filter_append,
    List.filter_eq_self.2 fun e he => bne_iff_ne.2 (ne_of_nodup hnodup he)]
  exact List.perm_middle

theorem perm_arranged (head : List Name) (hnodup : entries.keys.Nodup) :
    (arranged head entries).Perm entries := by
  induction head generalizing entries with
  | nil => exact List.mergeSort_perm _ _
  | cons n head ih =>
    rw [arranged]
    cases ht : entries.lookup n with
    | none => exact ih hnodup
    | some t =>
      have hperm := perm_cons_filter hnodup ht
      have hrest := (List.nodup_cons.1 ((keys_perm hperm).nodup_iff.1 hnodup)).2
      exact ((ih hrest).cons _).trans hperm.symm

/-- The entries are taken out in the order of the head.

**Proof sketch.** Induction on the head. What is taken out for its first variable comes before all
others, and these are taken out in the order of the other variables of the head, as they would be if
the first one were not there. -/
theorem pairwise_arranged (head : List Name) (hnodup : entries.keys.Nodup) :
    (arranged head entries).keys.Pairwise (ComesBefore head) := by
  induction head generalizing entries with
  | nil =>
    have hsorted := List.pairwise_mergeSort nameLe_trans nameLe_total entries
    have hkeys := List.pairwise_map.1 ((keys_perm (perm_arranged [] hnodup)).nodup_iff.2 hnodup)
    refine List.pairwise_map.2 (hsorted.imp₂ (fun a b hle hne => ?_) hkeys)
    have hlt : a.1 < b.1 :=
      String.not_le.1 fun hba => hne (String.le_antisymm (of_decide_eq_true hle) hba)
    exact .inr ⟨List.not_mem_nil, List.not_mem_nil, lt_iff_utf8Bytes_lt.1 hlt⟩
  | cons n head ih =>
    rw [arranged]
    cases ht : entries.lookup n with
    | none =>
      have hn : ∀ m ∈ (arranged head entries).keys, m ≠ n := by
        rintro m hm rfl
        obtain ⟨e, he, rfl⟩ := List.mem_map.1 ((keys_perm (perm_arranged head hnodup)).mem_iff.1 hm)
        simpa using List.lookup_eq_none_iff.1 ht e he
      exact (ih hnodup).imp_of_mem fun ha hb hab => hab.cons (hn _ ha) (hn _ hb)
    | some t =>
      have hrest :=
        List.nodup_cons.1 ((keys_perm (perm_cons_filter hnodup ht)).nodup_iff.1 hnodup)
      have hn : ∀ m ∈ (arranged head (entries.filter (·.1 != n))).keys, m ≠ n := by
        rintro m hm rfl
        exact hrest.1 ((keys_perm (perm_arranged head hrest.2)).mem_iff.1 hm)
      refine List.pairwise_cons.2 ⟨fun m hm => comesBefore_cons (hn m hm), ?_⟩
      exact (ih hrest.2).imp_of_mem fun ha hb hab => hab.cons (hn _ ha) (hn _ hb)

/-- Entries are read into a row up to the first error. -/
theorem readInto_eq (row : Row) (h : ∀ e ∈ entries, raw.term? e.1 = some e.2) :
    readInto row entries = (bindings raw entries.keys).map row.insertMany := by
  induction entries generalizing row with
  | nil => rfl
  | cons e entries ih =>
    obtain ⟨n, t⟩ := e
    have hn : raw.term? n = some t := h _ List.mem_cons_self
    have hkeys : keys ((n, t) :: entries) = n :: keys entries := rfl
    rw [hkeys, bindings, hn, readInto]
    cases hterm : t.toTerm with
    | error e => simp only [hterm]; rfl
    | ok term =>
      have hrest := ih (row.insert n term) fun e he => h e (List.mem_cons_of_mem _ he)
      change readInto (row.insert n term) entries = _
      simp only [hrest, hterm]
      cases bindings raw (keys entries) with
      | error e => rfl
      | ok l => rfl

/-- Taking the terms out of the entries of a solution gives the row or the error that the solution
is decoded to, in whatever order they are listed. -/
theorem consume_eq_decode (head : List Name) (hnodup : entries.keys.Nodup)
    (h : ∀ n, entries.lookup n = raw.term? n) :
    consume head .empty entries = decode head raw := by
  have hperm := perm_arranged head hnodup
  have hentries : ∀ n t, raw.term? n = some t ↔ (n, t) ∈ entries := fun n t => by
    rw [← h, lookup_eq_some_iff hnodup]
  have hterms : ∀ e ∈ arranged head entries, raw.term? e.1 = some e.2 := fun e he =>
    (hentries _ _).2 (hperm.mem_iff.1 he)
  have hkeys : (arranged head entries).keys = order head raw := by
    refine eq_of_comesBefore (pairwise_arranged head hnodup) (pairwise_order head raw) fun n => ?_
    simp only [mem_order, hperm.mem_iff, hentries, keys, List.mem_map, Prod.exists,
      exists_and_right, exists_eq_right]
  rw [consume_eq_readInto, readInto_eq .empty hterms, hkeys]
  rfl

end

/-! ## Main result -/

/-- **Solutions are decoded in the order of the head.** Let a solution be decoded with some head.
The variables of the solution are ordered by their first places in the head, and those that it does
not mention come after them in the order of their bytes.

* It is decoded to a row exactly if the kinds of all its terms are known. The row is the only one
  that binds the variables of the solution to what their terms mean, each once and in that order.
* Otherwise the error is that of the first variable in that order whose term has an unknown kind.
* The same comes out if the terms are taken out of the entries of the solution one after another, in
  whatever order the entries are listed.
* The solutions of a document are decoded with its head, each by itself: the pull of any number from
  the rows that are read gives the row or the error of the solution of that number.

**Proof sketch.** The variables of a solution are in order (`pairwise_order`), so the first of them
with a term of an unknown kind is the one that the error is about (`decode_cases`). A row is
determined by its order and its bindings (`DecodesTo.unique`). The entries are taken out in the same
order (`pairwise_arranged`), and there is only one list of names in it. -/
theorem decode_inHeadOrder (head : List Name) (raw : RawSolution) :
    (∀ row, decode head raw = .ok row ↔ raw.DecodesTo head row) ∧
    ((∃ row, decode head raw = .ok row) ↔
      ∀ n t, raw.term? n = some t → t.kind ∈ ResultTerm.knownKinds) ∧
    (∀ e, decode head raw = .error e ↔
      ∃ n t, raw.term? n = some t ∧ t.kind ∉ ResultTerm.knownKinds ∧
        (∀ m, raw.Unknown m → m = n ∨ ComesBefore head n m) ∧ e = .unknownTermKind t.kind) ∧
    (∀ entries : RawSolution, entries.keys.Nodup → (∀ n, entries.lookup n = raw.term? n) →
      consume head .empty entries = decode head raw) ∧
    ∀ document d raws, ResultDocument.read document = .ok d → d.solutions? = some raws →
      ∃ s, Solutions.read document = .ok s ∧ s.head = d.head ∧
        ∀ i, s.toSequence.pull i = raws[i]?.map (decode d.head) := by
  refine ⟨fun row => ?_, ?_, fun e => ?_, fun entries => consume_eq_decode head,
    fun document d raws hread hraws => ?_⟩
  · rcases decode_cases head raw with ⟨given, hgiven, hto⟩ | ⟨n, t, ht, hkind, herror, -⟩
    · rw [hgiven]
      exact ⟨fun h => Except.ok.inj h ▸ hto, fun h => congrArg _ (hto.unique h)⟩
    · rw [herror]
      refine ⟨fun h => ?_, fun h => absurd ⟨t, ht, hkind⟩ h.not_unknown⟩
      cases h
  · rcases decode_cases head raw with ⟨given, hgiven, hto⟩ | ⟨n, t, ht, hkind, herror, -⟩
    · refine ⟨fun _ m u hu => ?_, fun _ => ⟨given, hgiven⟩⟩
      exact Decidable.not_not.1 fun hkind => hto.not_unknown ⟨u, hu, hkind⟩
    · refine ⟨fun ⟨row, hrow⟩ => ?_, fun h => absurd (h n t ht) hkind⟩
      rw [herror] at hrow
      cases hrow
  · rcases decode_cases head raw with ⟨given, hgiven, hto⟩ | ⟨n, t, ht, hkind, herror, hfirst⟩
    · rw [hgiven]
      refine ⟨fun h => ?_, fun ⟨m, u, hu, hkind, _⟩ => absurd ⟨u, hu, hkind⟩ hto.not_unknown⟩
      cases h
    · rw [herror]
      refine ⟨fun h => ⟨n, t, ht, hkind, hfirst, (Except.error.inj h).symm⟩, ?_⟩
      rintro ⟨m, u, hu, hunknown, hm, rfl⟩
      have hmn : m = n := by
        rcases hfirst m ⟨u, hu, hunknown⟩ with h | h
        · exact h
        · rcases hm n ⟨t, ht, hkind⟩ with h' | h'
          · exact h'.symm
          · exact absurd h' h.asymm
      subst hmn
      rw [Option.some.inj (ht.symm.trans hu)]
  · refine ⟨⟨d.head, raws.map (decode d.head)⟩, ?_, rfl, fun i => ?_⟩
    · rw [Solutions.read, hread]
      change Solutions.ofDocument d = _
      rw [Solutions.ofDocument, hraws]
    · rw [RowSequence.fused, Solutions.toSequence, RowSequence.toList_ofItems, List.getElem?_map]

/-- A solution with two terms of unknown kinds, one of them for a variable of `mixedHead`. -/
def mixedSolution : RawSolution :=
  [("b", ⟨"triple", "", none, none⟩), ("x", ⟨"quad", "", none, none⟩),
    ("y", ⟨"uri", "u", none, none⟩)]

/-- A solution whose terms are understood. -/
def namedSolution : RawSolution :=
  [("b", ⟨"uri", "b", none, none⟩), ("a", ⟨"uri", "a", none, none⟩),
    ("x", ⟨"bnode", "x", none, none⟩)]

/-- A head that repeats a variable and has one that no solution binds. -/
def mixedHead : List Name := ["y", "q", "x", "y"]

/-- A document with both solutions. -/
def mixedJson : Json :=
  .record [
    ("head", some (.record [("vars", some (.strings mixedHead))])),
    ("results", some (.record [
      ("bindings", some (.array [mixedSolution.toJson, namedSolution.toJson]))]))]

theorem textual_mixedJson : mixedJson.Textual := by
  refine Json.textual_record fun m hm v hv => ?_
  rcases List.mem_cons.1 hm with rfl | hm
  · exact Option.some.inj hv ▸ Json.textual_field (Json.textual_strings mixedHead)
  · obtain rfl := List.mem_singleton.1 hm
    refine Option.some.inj hv ▸ Json.textual_field (.array fun w hw => ?_)
    rcases List.mem_pair.1 hw with rfl | rfl
    · exact textual_toJson mixedSolution
    · exact textual_toJson namedSolution

/-- The first solution gives the error of its first variable in the order of the head, in whatever
order its entries are listed. The second one is decoded all the same. -/
theorem mixed_pulls :
    consume mixedHead .empty mixedSolution.reverse = .error (.unknownTermKind "quad") ∧
    ∃ s, Solutions.read (symbolsOf mixedJson.pretty) = .ok s ∧
      s.toSequence.pull 0 = some (.error (.unknownTermKind "quad")) ∧
      ∃ row, s.toSequence.pull 1 = some (.ok row) ∧ row.names = ["x", "a", "b"] := by
  obtain ⟨-, -, -, hentries, hdocument⟩ := decode_inHeadOrder mixedHead mixedSolution
  have herror : decode mixedHead mixedSolution = .error (.unknownTermKind "quad") := by
    decide +kernel
  obtain ⟨row, hrow, hnames⟩ :
      ∃ row, decode mixedHead namedSolution = .ok row ∧ row.names = ["x", "a", "b"] :=
    ⟨_, rfl, by decide +kernel⟩
  have hread : ResultDocument.read (symbolsOf mixedJson.pretty) =
      .ok ⟨mixedHead, some [mixedSolution, namedSolution], none⟩ := by
    rw [ResultDocument.read, Json.read_pretty textual_mixedJson]
    rfl
  obtain ⟨s, hs, -, hpull⟩ := hdocument _ _ _ hread rfl
  refine ⟨?_, s, hs, ?_, row, ?_, hnames⟩
  · rw [← herror]
    refine hentries _ (by decide) fun n => ?_
    rfl
  · rw [hpull, ← herror]
    rfl
  · rw [hpull, ← hrow]
    rfl

end RawSolution

end ServiceClause
