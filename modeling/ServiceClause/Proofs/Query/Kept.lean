import ServiceClause.Proofs.Query.Places
import ServiceClause.Proofs.Query.Substitution

/-!
# What pre-binding keeps

Where variables give way to values, a part of the text stays as it is if no piece that it shares a
character with is a variable with a value. For a question mark and a name before a space it depends
on the word that the name begins with, since no more than this word is read as a variable.

## Main definitions

* `ServiceClause.Token.Kept` — whether a part of a text stays as it is.

## Main statements

* `ServiceClause.Token.first_mark_eq_iff` — when a name is read as a whole.
* `ServiceClause.Token.kept_iff` — when a name before a space is kept.
* `ServiceClause.preBind_of_kept` — a part that is kept stands in the query that is sent.
-/

set_option autoImplicit false

namespace ServiceClause

namespace Token

variable {value : Name → Option String} {values : List (Name × String)}
  {front part back name cs : List Char} {pieces within : List Token}

/-- Whether a part of a text, between `front` and `back`, stays as it is where variables give way to
values: the pieces that it lies in are no variables with a value. -/
def Kept (value : Name → Option String) (front part back : List Char) : Prop :=
  ∃ before within after x y,
    scan (front ++ (part ++ back)) = before ++ (within ++ after) ∧
      front = before.flatMap chars ++ x ∧ back = y ++ after.flatMap chars ∧
        within.flatMap chars = x ++ (part ++ y) ∧
          ∀ mark name, var mark name ∈ within → value (String.ofList name) = none

/-! ## Values that give way -/

theorem bindAll_append (values : List (Name × String)) (inPattern : Bool)
    (pieces more : List Token) : bindAll values inPattern (pieces ++ more) =
      bindAll values inPattern pieces ++
        bindAll values (inPattern || pieces.any (·.isOpenBrace)) more := by
  induction pieces generalizing inPattern with
  | nil => simp [bindAll]
  | cons piece pieces ih =>
    rw [List.cons_append, bindAll, bindAll, ih, List.any_cons, List.append_assoc, Bool.or_assoc]

/-- Pieces without variables that have a value stay as they are. -/
theorem bindAll_of_none
    (h : ∀ mark name, var mark name ∈ within → values.lookup (String.ofList name) = none)
    (inPattern : Bool) : bindAll values inPattern within = within.flatMap chars := by
  induction within generalizing inPattern with
  | nil => rfl
  | cons piece within ih =>
    have hpiece : piece.bind values inPattern = piece.chars := by
      cases piece with
      | var mark name => rw [bind, h mark name List.mem_cons_self]
      | _ => rfl
    rw [bindAll, hpiece, ih fun mark name hmem => h mark name (List.mem_cons_of_mem _ hmem),
      List.flatMap_cons]

/-- A part that is kept stands between what becomes of the text before and after it. -/
theorem bindAll_of_kept (hvalues : ∀ n, values.lookup n = value n)
    (h : Kept value front part back) : ∃ before after,
      bindAll values false (scan (front ++ (part ++ back))) = before ++ (part ++ after) := by
  obtain ⟨before, within, after, x, y, hscan, -, -, hwithin, hnone⟩ := h
  refine ⟨bindAll values false before ++ x, y ++ bindAll values
    ((false || before.any (·.isOpenBrace)) || within.any (·.isOpenBrace)) after, ?_⟩
  rw [hscan, bindAll_append, bindAll_append,
    bindAll_of_none fun mark name hmem => (hvalues _).trans (hnone mark name hmem), hwithin]
  simp only [List.append_assoc]

/-! ## A name before a space -/

theorem takeWhile_dropWhile_append {α : Type} {p : α → Bool} {d : α} (hd : p d = false) (l : List α)
    (rest : List α) : (l.dropWhile p ++ d :: rest).takeWhile p = [] := by
  cases hdrop : l.dropWhile p with
  | nil => simp [hd]
  | cons a tail =>
    have ha := List.head?_dropWhile_not p l
    rw [hdrop, List.head?_cons] at ha
    rw [List.cons_append, List.takeWhile_cons_of_neg (by simpa using ha)]

/-- A name before a space is read as a variable as a whole if and only if it is a word. -/
theorem first_mark_eq_iff (hne : name ≠ []) (rest : List Char) :
    first '?' (name ++ ' ' :: rest) = (var '?' name, name.length) ↔
      ∀ c ∈ name, isWord c = true := by
  have hspace : (' ' :: rest).takeWhile isWord = [] := by
    rw [List.takeWhile_cons_of_neg (by decide +kernel)]
  constructor
  · intro h
    exact (variableLength_append_iff.1 (openedBy_of_first h).2.2).2.1
  · intro h
    have hlength := variableLength_append_iff.2 ⟨hne, h, hspace⟩
    simp [first, hlength, opened]

theorem flatMap_chars_other (text : List Char) : (text.map other).flatMap chars = text := by
  simp [List.flatMap_map, chars]

theorem var_notMem_other (text : List Char) (mark : Char) (n : List Char) :
    var mark n ∉ text.map other := by
  intro hmem
  obtain ⟨c, -, hc⟩ := List.mem_map.1 hmem
  cases hc

/-- The pieces of a question mark, a name and a space: the word that the name begins with is a
variable, unless it is empty, and all other characters are pieces by themselves. -/
theorem exists_scan_mark (hname : ∀ c ∈ name, c ∉ opening) (back : List Char) : ∃ found,
    scan ('?' :: (name ++ [' ']) ++ back) = found ++ scan back ∧
      found.flatMap chars = '?' :: (name ++ [' ']) ∧
        ∀ mark n, var mark n ∈ found → ∃ later,
          found = var '?' (name.takeWhile isWord) :: later ∧ n = name.takeWhile isWord := by
  have hplain : ∀ text, (∀ c ∈ text, c ∈ name) → ∀ c ∈ text ++ [' '], c ∉ opening := by
    intro text htext c hc
    rcases List.mem_append.1 hc with hc | hc
    · exact hname c (htext c hc)
    · rw [List.mem_singleton.1 hc]
      decide
  have hspace : isWord ' ' = false := by decide +kernel
  have hrest := takeWhile_dropWhile_append hspace name back
  have hparts := List.takeWhile_append_dropWhile (p := isWord) (l := name)
  by_cases hlead : name.takeWhile isWord = []
  · rw [hlead, List.nil_append] at hparts
    rw [hparts] at hrest
    have hlength : variableLength (name ++ ' ' :: back) = none :=
      variableLength_eq_none_iff.2 hrest
    have hfirst : first '?' ([] ++ (name ++ [' '] ++ back)) =
        (other '?', ([] : List Char).length) := by
      simp [first, hlength, opened]
    refine ⟨other '?' :: (name ++ [' ']).map other, ?_, ?_, fun mark n hmem => ?_⟩
    · have hscan := scan_of_first hfirst
      rw [List.nil_append] at hscan
      rw [List.cons_append, hscan, scan_of_notMem (hplain name fun c hc => hc)]
      rfl
    · rw [List.flatMap_cons, flatMap_chars_other]
      rfl
    · rcases List.mem_cons.1 hmem with hmem | hmem
      · cases hmem
      · exact absurd hmem (var_notMem_other _ _ _)
  · refine ⟨var '?' (name.takeWhile isWord) :: (name.dropWhile isWord ++ [' ']).map other, ?_, ?_,
      fun mark n hmem => ⟨_, rfl, ?_⟩⟩
    · have hscan := scan_variable (.inl rfl) hlead (List.all_eq_true.1 List.all_takeWhile) hrest
      have htext : '?' :: (name ++ [' ']) ++ back =
          '?' :: (name.takeWhile isWord ++ (name.dropWhile isWord ++ ' ' :: back)) := by
        rw [← List.append_assoc, hparts]
        simp
      have hback : name.dropWhile isWord ++ ' ' :: back =
          name.dropWhile isWord ++ [' '] ++ back := by simp
      rw [htext, hscan, hback, scan_of_notMem (hplain _ fun c hc =>
        (List.dropWhile_sublist isWord).subset hc)]
      rfl
    · rw [List.flatMap_cons, flatMap_chars_other, chars, List.cons_append, ← List.append_assoc,
        hparts]
    · rcases List.mem_cons.1 hmem with hmem | hmem
      · exact (Token.var.inj hmem).2
      · exact absurd hmem (var_notMem_other _ _ _)

/-- **When a name before a space is kept.** A question mark, a name and a space stay as they are if
and only if the question mark does not begin a variable with a value. The name of this variable is
the word that the name begins with.

**Proof sketch.** The question mark is at the end of a piece or inside one (`scan_append_cases`). In
the first case the pieces are known (`exists_scan_mark`). In the second one the piece is no
variable, since no question mark is in the name of one, and after it there is nothing that opens
another one before the space. -/
theorem kept_iff (hname : ∀ c ∈ name, c ∉ opening) :
    Kept value front ('?' :: (name ++ [' '])) back ↔
      ∀ pieces later, scan (front ++ ('?' :: (name ++ [' ']) ++ back)) =
          pieces ++ var '?' (name.takeWhile isWord) :: later → pieces.flatMap chars = front →
        value (String.ofList (name.takeWhile isWord)) = none := by
  constructor
  · rintro ⟨before, within, after, x, y, hscan, rfl, -, hwithin, hnone⟩ pieces later hscan' hpieces
    refine hnone '?' _ ?_
    rw [hscan] at hscan'
    -- the variable comes after the pieces that end before the part
    obtain ⟨more, hmore, hx⟩ : ∃ more, within ++ after =
        more ++ var '?' (name.takeWhile isWord) :: later ∧ more.flatMap chars = x := by
      rcases List.append_eq_append_iff.1 hscan' with ⟨more, rfl, hmore⟩ | ⟨more, rfl, hmore⟩
      · rw [List.flatMap_append] at hpieces
        exact ⟨more, hmore, List.append_cancel_left hpieces⟩
      · rw [List.flatMap_append, List.append_assoc] at hpieces
        have hnil := List.append_right_eq_self.1 hpieces.symm
        cases more with
        | nil => exact ⟨[], hmore.symm, (List.append_eq_nil_iff.1 hnil).2.symm⟩
        | cons piece more =>
          rw [List.cons_append, List.cons.injEq] at hmore
          rw [← hmore.1, List.flatMap_cons] at hnil
          cases hnil
    rcases List.append_eq_append_iff.1 hmore with ⟨others, rfl, -⟩ | ⟨others, rfl, hothers⟩
    · -- the part would be over before the variable
      rw [List.flatMap_append, hwithin] at hx
      have hlength := congrArg List.length hx
      simp only [List.length_append, List.length_cons] at hlength
      omega
    · cases others with
      | nil =>
        rw [List.append_nil, hx] at hwithin
        have hlength := congrArg List.length hwithin
        simp only [List.length_append, List.length_cons] at hlength
        omega
      | cons piece others =>
        rw [List.cons_append, List.cons.injEq] at hothers
        rw [hothers.1]
        simp
  · intro h
    rcases scan_append_cases front ('?' :: (name ++ [' ']) ++ back) with
      ⟨pieces, hscan, hpieces⟩ |
        ⟨pieces, piece, later, inner, rest, hscan, hfront, hrest, hpiece, hinner, hne⟩
    · obtain ⟨found, hfound, hchars, hvar⟩ := exists_scan_mark hname back
      refine ⟨pieces, found, scan back, [], [], ?_, ?_, ?_, ?_, fun mark n hmem => ?_⟩
      · rw [hscan, hfound]
      · rw [hpieces, List.append_nil]
      · rw [flatMap_chars_scan, List.nil_append]
      · rw [hchars, List.append_nil, List.nil_append]
      · obtain ⟨later, rfl, rfl⟩ := hvar mark n hmem
        refine h pieces (later ++ scan back) ?_ hpieces
        rw [hscan, hfound, List.cons_append]
    · -- a piece that the question mark lies in is no variable
      have hnovar : ∀ mark n, piece ≠ var mark n := by
        rintro mark n rfl
        have hmem : var mark n ∈ scan (front ++ ('?' :: (name ++ [' ']) ++ back)) := by
          rw [hscan]
          simp
        obtain ⟨-, -, hword⟩ := variable_of_mem_scan hmem
        obtain ⟨c, inner, rfl⟩ := List.exists_cons_of_ne_nil hinner
        obtain ⟨d, rest, rfl⟩ := List.exists_cons_of_ne_nil hne
        obtain ⟨rfl, -⟩ := List.cons.inj hrest
        have hn : n = inner ++ '?' :: rest := (List.cons.inj hpiece).2
        exact absurd (hword '?' (by simp [hn])) (by decide +kernel)
      rcases List.append_eq_append_iff.1 hrest with ⟨more, rfl, rfl⟩ | ⟨more, hpart, hmore⟩
      · refine ⟨pieces, [piece], later, inner, more, hscan, hfront, rfl, ?_, fun mark n hmem => ?_⟩
        · rw [List.flatMap_singleton, hpiece]
        · exact absurd (List.mem_singleton.1 hmem).symm (hnovar mark n)
      · -- what the piece leaves of the part opens nothing
        have hopening : ∀ c ∈ more, c ∉ opening := by
          intro c hc
          obtain ⟨d, rest, rfl⟩ := List.exists_cons_of_ne_nil hne
          have hmem : c ∈ name ++ [' '] := by
            rw [(List.cons.inj hpart).2]
            exact List.mem_append_right _ hc
          rcases List.mem_append.1 hmem with hmem | hmem
          · exact hname c hmem
          · rw [List.mem_singleton.1 hmem]
            decide
        have hlater : later = more.map other ++ scan back := by
          rw [← scan_of_notMem hopening, ← hmore]
          exact (scan_of_append (hscan.trans (List.append_assoc pieces [piece] later).symm)).symm
        refine ⟨pieces, piece :: more.map other, scan back, inner, [], ?_, hfront, ?_, ?_,
          fun mark n hmem => ?_⟩
        · rw [hscan, hlater]
          rfl
        · rw [flatMap_chars_scan, List.nil_append]
        · rw [List.flatMap_cons, flatMap_chars_other, hpiece, hpart, List.append_nil,
            List.append_assoc]
        · rcases List.mem_cons.1 hmem with hmem | hmem
          · exact absurd hmem.symm (hnovar mark n)
          · exact absurd hmem (var_notMem_other _ _ _)

end Token

/-- A part of a query that is kept stands in the query that is sent, between what becomes of the
text before and after it. -/
theorem preBind_of_kept {query : String} {front part back : List Char} {row : Row}
    {declared : NameSet} (hquery : query.toList = front ++ (part ++ back))
    (h : Token.Kept (row.substitute? declared) front part back) {text : String}
    (htext : preBind query row declared = .ok text) :
    ∃ before after, text.toList = before ++ (part ++ after) := by
  by_cases hvalue : ∃ n value, row.substitute? declared n = some value
  · rw [preBind_of_value hvalue] at htext
    split at htext
    · obtain ⟨before, after, hbound⟩ := Token.bindAll_of_kept Row.lookup_renderable h
      refine ⟨before, after, ?_⟩
      rw [← Except.ok.inj htext, String.toList_ofList, hquery, hbound]
    · cases htext
  · have hnone : ∀ n, row.substitute? declared n = none := fun n =>
      Option.eq_none_iff_forall_ne_some.2 fun value hn => hvalue ⟨n, value, hn⟩
    rw [preBind_of_no_value hnone] at htext
    exact ⟨front, back, by rw [← Except.ok.inj htext, hquery]⟩

end ServiceClause
