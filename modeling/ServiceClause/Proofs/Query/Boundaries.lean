import ServiceClause.Query.Token

/-!
# Where pieces end

Scanning looks ahead, for a long string as far as the end of the text. Still a piece is decided by
its own characters and by little of what comes after it: which of its longer readings the rest of
the text rules out. Changes of the rest that keep ruling these out leave the piece as it is.

## Main definitions

* `ServiceClause.Token.OpenedBy` — what is known of a piece from the character that opens it.

## Main statements

* `ServiceClause.Token.stringLength_append`, `longStringLength_append`, `iriLength_append` — a piece
  that ends does not depend on what comes after it.
* `ServiceClause.Token.scanInduction` — induction on a text, piece by piece.
* `ServiceClause.Token.first_congr` — when a piece stays the same before another text.
* `ServiceClause.Token.openedBy_of_first` — what opens a piece, and how far it reaches.
-/

set_option autoImplicit false

namespace ServiceClause

namespace Token

/-! ## Escapes -/

/-- Induction on a text in which a backslash takes the next character with it. -/
@[elab_as_elim]
theorem escapeInduction {motive : List Char → Prop} (nil : motive []) (lone : motive ['\\'])
    (pair : ∀ c cs, motive cs → motive ('\\' :: c :: cs))
    (plain : ∀ c cs, c ≠ '\\' → motive cs → motive (c :: cs)) : ∀ cs, motive cs
  | [] => nil
  | c :: cs => by
    by_cases hc : c = '\\'
    · subst hc
      match cs with
      | [] => exact lone
      | d :: rest => exact pair d rest (escapeInduction nil lone pair plain rest)
    · exact plain c cs hc (escapeInduction nil lone pair plain cs)

variable {q c d : Char} {cs rest more text : List Char} {n : Nat}

theorem shortStringLength_pair :
    shortStringLength q ('\\' :: c :: cs) = (shortStringLength q cs).map (· + 2) := rfl

theorem shortStringLength_lone (hq : q ≠ '\\') : shortStringLength q ['\\'] = none := by
  simp [shortStringLength, hq.symm]

theorem shortStringLength_cons (hc : c ≠ '\\') : shortStringLength q (c :: cs) =
    if c = q then some 1
    else if c = '\n' ∨ c = '\r' then none
    else (shortStringLength q cs).map (· + 1) := by
  rw [shortStringLength]
  · simp [hc]
  · intro d rest h
    exact absurd h hc

theorem longStringLength_pair :
    longStringLength q ('\\' :: c :: cs) = (longStringLength q cs).map (· + 2) := rfl

theorem longStringLength_lone : longStringLength q ['\\'] = none := by
  simp [longStringLength]

theorem longStringLength_cons (hc : c ≠ '\\') : longStringLength q (c :: cs) =
    if c = q ∧ cs.take 2 = [q, q] then some 3 else (longStringLength q cs).map (· + 1) := by
  rw [longStringLength]
  · simp [hc]
  · intro d rest h
    exact absurd h hc

theorem iriLength_cons : iriLength (c :: cs) =
    if c = '>' then some 1 else if iriExcludes c then none else (iriLength cs).map (· + 1) := rfl

/-! ## How far a piece reaches -/

theorem shortStringLength_bounds (h : shortStringLength q cs = some n) : 0 < n ∧ n ≤ cs.length := by
  induction cs using escapeInduction generalizing n with
  | nil => simp [shortStringLength] at h
  | lone =>
    by_cases hq : q = '\\'
    · simp [shortStringLength, hq] at h
      simp [← h]
    · simp [shortStringLength_lone hq] at h
  | pair c cs ih =>
    rw [shortStringLength_pair, Option.map_eq_some_iff] at h
    obtain ⟨m, hm, rfl⟩ := h
    have := ih hm
    simp only [List.length_cons]
    omega
  | plain c cs hc ih =>
    rw [shortStringLength_cons hc] at h
    split at h
    · simp at h
      simp [← h]
    split at h
    · simp at h
    rw [Option.map_eq_some_iff] at h
    obtain ⟨m, hm, rfl⟩ := h
    have := ih hm
    simp only [List.length_cons]
    omega

theorem longStringLength_bounds (h : longStringLength q cs = some n) : 3 ≤ n ∧ n ≤ cs.length := by
  induction cs using escapeInduction generalizing n with
  | nil => simp [longStringLength] at h
  | lone => simp [longStringLength_lone] at h
  | pair c cs ih =>
    rw [longStringLength_pair, Option.map_eq_some_iff] at h
    obtain ⟨m, hm, rfl⟩ := h
    have := ih hm
    simp only [List.length_cons]
    omega
  | plain c cs hc ih =>
    rw [longStringLength_cons hc] at h
    split at h
    · next hclose =>
      have := congrArg List.length hclose.2
      simp at h this
      simp only [List.length_cons]
      omega
    rw [Option.map_eq_some_iff] at h
    obtain ⟨m, hm, rfl⟩ := h
    have := ih hm
    simp only [List.length_cons]
    omega

theorem iriLength_bounds (h : iriLength cs = some n) : 0 < n ∧ n ≤ cs.length := by
  induction cs generalizing n with
  | nil => simp [iriLength] at h
  | cons c cs ih =>
    rw [iriLength_cons] at h
    split at h
    · simp at h
      simp [← h]
    split at h
    · simp at h
    rw [Option.map_eq_some_iff] at h
    obtain ⟨m, hm, rfl⟩ := h
    have := ih hm
    simp only [List.length_cons]
    omega

/-- Where a string ends is decided by the characters up to its end. -/
theorem shortStringLength_append (hq : q ≠ '\\') (h : shortStringLength q (cs ++ rest) = some n)
    (hn : n ≤ cs.length) (more : List Char) : shortStringLength q (cs ++ more) = some n := by
  induction cs using escapeInduction generalizing n with
  | nil =>
    have := (shortStringLength_bounds h).1
    simp only [List.length_nil] at hn
    omega
  | lone =>
    cases rest with
    | nil => simp [shortStringLength_lone hq] at h
    | cons d rest =>
      rw [List.cons_append, List.nil_append, shortStringLength_pair, Option.map_eq_some_iff] at h
      obtain ⟨m, _, rfl⟩ := h
      simp only [List.length_singleton] at hn
      omega
  | pair c cs ih =>
    rw [List.cons_append, List.cons_append, shortStringLength_pair, Option.map_eq_some_iff] at h ⊢
    obtain ⟨m, hm, rfl⟩ := h
    simp only [List.length_cons] at hn
    exact ⟨m, ih hm (by omega), rfl⟩
  | plain c cs hc ih =>
    rw [List.cons_append, shortStringLength_cons hc] at h ⊢
    split at h
    · next hend => rw [if_pos hend, h]
    · next hend =>
      split at h
      · cases h
      · next hgo =>
        rw [Option.map_eq_some_iff] at h
        obtain ⟨m, hm, rfl⟩ := h
        simp only [List.length_cons] at hn
        rw [if_neg hend, if_neg hgo, ih hm (by omega)]
        rfl

/-- Where a long string ends is decided by the characters up to its end. -/
theorem longStringLength_append (h : longStringLength q (cs ++ rest) = some n)
    (hn : n ≤ cs.length) (more : List Char) : longStringLength q (cs ++ more) = some n := by
  induction cs using escapeInduction generalizing n with
  | nil =>
    have := (longStringLength_bounds h).1
    simp only [List.length_nil] at hn
    omega
  | lone =>
    cases rest with
    | nil => simp [longStringLength_lone] at h
    | cons d rest =>
      rw [List.cons_append, List.nil_append, longStringLength_pair, Option.map_eq_some_iff] at h
      obtain ⟨m, _, rfl⟩ := h
      simp only [List.length_singleton] at hn
      omega
  | pair c cs ih =>
    rw [List.cons_append, List.cons_append, longStringLength_pair, Option.map_eq_some_iff] at h ⊢
    obtain ⟨m, hm, rfl⟩ := h
    simp only [List.length_cons] at hn
    exact ⟨m, ih hm (by omega), rfl⟩
  | plain c cs hc ih =>
    rw [List.cons_append, longStringLength_cons hc] at h ⊢
    split at h
    · next hclose =>
      have hlen : 2 ≤ cs.length := by
        simp only [List.length_cons, Option.some.injEq] at hn h
        omega
      rw [List.take_append_of_le_length hlen] at hclose ⊢
      rw [if_pos hclose]
      exact h
    · next hclose =>
      rw [Option.map_eq_some_iff] at h
      obtain ⟨m, hm, rfl⟩ := h
      simp only [List.length_cons] at hn
      have hlen : 2 ≤ cs.length := by
        have := (longStringLength_bounds hm).1
        omega
      rw [List.take_append_of_le_length hlen] at hclose ⊢
      rw [if_neg hclose, ih hm (by omega)]
      rfl

/-- Where an IRI ends is decided by the characters up to its end. -/
theorem iriLength_append (h : iriLength (cs ++ rest) = some n) (hn : n ≤ cs.length)
    (more : List Char) : iriLength (cs ++ more) = some n := by
  induction cs generalizing n with
  | nil =>
    have := (iriLength_bounds h).1
    simp only [List.length_nil] at hn
    omega
  | cons c cs ih =>
    rw [List.cons_append, iriLength_cons] at h ⊢
    split at h
    · next hend => rw [if_pos hend, h]
    · next hend =>
      split at h
      · cases h
      · next hgo =>
        rw [Option.map_eq_some_iff] at h
        obtain ⟨m, hm, rfl⟩ := h
        simp only [List.length_cons] at hn
        rw [if_neg hend, if_neg hgo, ih hm (by omega)]
        rfl

/-! ### Strings of either kind -/

theorem stringLength_of_take (hq : q ≠ '\\') (h : cs.take 2 = [q, q]) :
    stringLength q cs = ((longStringLength q (cs.drop 2)).map (· + 2)).or (some 1) := by
  obtain ⟨rest, rfl⟩ : ∃ rest, cs = q :: q :: rest := by
    match cs, h with
    | d :: e :: rest, h =>
      simp at h
      exact ⟨rest, by rw [h.1, h.2]⟩
  have hshort : shortStringLength q (q :: q :: rest) = some 1 := by
    rw [shortStringLength_cons hq, if_pos rfl]
  rw [stringLength, if_pos h, hshort, Option.orElse_eq_orElse, Option.orElse_eq_or]

theorem stringLength_of_not_take (h : cs.take 2 ≠ [q, q]) :
    stringLength q cs = shortStringLength q cs := by
  rw [stringLength, if_neg h]
  rfl

theorem stringLength_bounds (h : stringLength q cs = some n) : 0 < n ∧ n ≤ cs.length := by
  by_cases htake : cs.take 2 = [q, q]
  · have hlen := congrArg List.length htake
    simp only [List.length_take, List.length_cons, List.length_nil] at hlen
    rw [stringLength, if_pos htake] at h
    cases hlong : longStringLength q (cs.drop 2) with
    | none =>
      rw [hlong] at h
      exact shortStringLength_bounds h
    | some m =>
      have := longStringLength_bounds hlong
      simp [hlong] at h this
      omega
  · rw [stringLength_of_not_take htake] at h
    exact shortStringLength_bounds h

/-- A string with some content ends where it ends, whatever comes after it. -/
theorem stringLength_append (hq : q ≠ '\\') (h : stringLength q (cs ++ rest) = some n)
    (hn : n ≤ cs.length) (hcs : 2 ≤ cs.length) (hcontent : 2 ≤ n) (more : List Char) :
    stringLength q (cs ++ more) = some n := by
  have htwo : ∀ other : List Char, (cs ++ other).take 2 = cs.take 2 := fun other =>
    List.take_append_of_le_length hcs
  by_cases htake : cs.take 2 = [q, q]
  · rw [stringLength_of_take hq ((htwo _).trans htake), List.drop_append_of_le_length hcs] at h ⊢
    cases hlong : longStringLength q (cs.drop 2 ++ rest) with
    | none =>
      simp [hlong] at h
      omega
    | some m =>
      simp [hlong] at h
      rw [longStringLength_append hlong (by simp; omega) more]
      simp [h]
  · rw [stringLength_of_not_take fun h => htake ((htwo _).symm.trans h)] at h ⊢
    exact shortStringLength_append hq h hn more

/-- A string ends at once only if it is empty. -/
theorem eq_quote_of_stringLength (hq : q ≠ '\\') (h : stringLength q (d :: cs) = some 1) :
    d = q := by
  by_cases htake : (d :: cs).take 2 = [q, q]
  · simp at htake
    exact htake.1
  · rw [stringLength_of_not_take htake] at h
    by_cases hd : d = '\\'
    · subst hd
      cases cs with
      | nil => simp [shortStringLength_lone hq] at h
      | cons e rest => simp [shortStringLength_pair] at h
    · rw [shortStringLength_cons hd] at h
      split at h
      · assumption
      split at h
      · cases h
      rw [Option.map_eq_some_iff] at h
      obtain ⟨m, hm, hone⟩ := h
      have := (shortStringLength_bounds hm).1
      omega

/-- An empty string stays empty unless a third quote opens a long one. -/
theorem stringLength_empty_iff (hq : q ≠ '\\') : stringLength q (q :: rest) = some 1 ↔
    (rest.head? = some q → longStringLength q rest.tail = none) := by
  cases rest with
  | nil => simp [stringLength_of_not_take, shortStringLength_cons hq]
  | cons d rest =>
    by_cases hd : d = q
    · subst hd
      rw [stringLength_of_take hq (by simp)]
      cases hlong : longStringLength d rest <;> simp [hlong]
    · rw [stringLength_of_not_take (by simp [hd]), shortStringLength_cons hq]
      simp [hd]

/-- A string stays the same if what comes after it is changed, unless an empty one goes on as a long
one. -/
theorem stringLength_congr (hq : q ≠ '\\')
    (h : stringLength q (text ++ rest) = some text.length)
    (hempty : text = [q] → (rest.head? = some q → longStringLength q rest.tail = none) →
      more.head? = some q → longStringLength q more.tail = none) :
    stringLength q (text ++ more) = some text.length := by
  match text with
  | [] => exact absurd (stringLength_bounds h).1 (by simp)
  | [d] =>
    obtain rfl := eq_quote_of_stringLength hq h
    exact (stringLength_empty_iff hq).2 (hempty rfl ((stringLength_empty_iff hq).1 h))
  | d :: e :: text => exact stringLength_append hq h (by simp) (by simp) (by simp) more

/-! ## The first piece -/

theorem chars_opened {build : List Char → Token} (h : ∀ text, (build text).chars = c :: text)
    (cs : List Char) (length? : Option Nat) :
    (opened c cs build length?).1.chars = c :: cs.take (opened c cs build length?).2 := by
  cases length? with
  | none => simp [opened, chars]
  | some n => simp [opened, h]

theorem opened_le {build : List Char → Token} {length? : Option Nat}
    (h : ∀ n, length? = some n → n ≤ cs.length) : (opened c cs build length?).2 ≤ cs.length := by
  cases length? with
  | none => simp [opened]
  | some n => exact h n rfl

theorem variableLength_le (h : variableLength cs = some n) : n ≤ cs.length := by
  unfold variableLength at h
  split at h
  · cases h
  · simp only [Option.some.injEq] at h
    rw [← h]
    exact (List.takeWhile_prefix _).length_le

theorem chars_first (c : Char) (cs : List Char) :
    (first c cs).1.chars = c :: cs.take (first c cs).2 ∧ (first c cs).2 ≤ cs.length := by
  unfold first
  split
  · exact ⟨chars_opened (fun _ => rfl) _ _, opened_le fun n h => (stringLength_bounds h).2⟩
  split
  · exact ⟨chars_opened (fun _ => rfl) _ _, opened_le fun n h => (iriLength_bounds h).2⟩
  split
  · refine ⟨chars_opened (fun _ => rfl) _ _, opened_le fun n h => ?_⟩
    rw [← Option.some.inj h]
    exact (List.takeWhile_prefix _).length_le
  split
  · next hbrace => simp [chars, hbrace]
  split
  · exact ⟨chars_opened (fun _ => rfl) _ _, opened_le fun n h => variableLength_le h⟩
  · simp [chars]

/-- Induction on a text, piece by piece. -/
@[elab_as_elim]
theorem scanInduction {motive : List Char → Prop} (nil : motive [])
    (cons : ∀ (c : Char) (text rest : List Char) (piece : Token),
      first c (text ++ rest) = (piece, text.length) → piece.chars = c :: text → motive rest →
        motive (c :: (text ++ rest))) (cs : List Char) : motive cs := by
  fun_induction scan cs with
  | case1 => exact nil
  | case2 c cs ih =>
    obtain ⟨hchars, hle⟩ := chars_first c cs
    have hcs : c :: cs = c :: (cs.take (first c cs).2 ++ cs.drop (first c cs).2) := by
      rw [List.take_append_drop]
    rw [hcs]
    refine cons c _ _ (first c cs).1 ?_ hchars ih
    rw [List.take_append_drop, List.length_take_of_le hle]

theorem scan_of_first {text : List Char} {piece : Token}
    (h : first c (text ++ rest) = (piece, text.length)) :
    scan (c :: (text ++ rest)) = piece :: scan rest := by
  rw [scan_cons, h, List.drop_left]

/-! ### What comes after a piece -/

/-- A run of characters that ends where the text ends. -/
theorem length_takeWhile_append_iff {p : Char → Bool} {text : List Char} :
    ((text ++ rest).takeWhile p).length = text.length ↔
      (∀ c ∈ text, p c = true) ∧ rest.takeWhile p = [] := by
  induction text with
  | nil => simp [List.length_eq_zero_iff]
  | cons c text ih =>
    rw [List.cons_append, List.takeWhile_cons]
    split
    · next hc => simp [ih, hc]
    · next hc => simp [hc]

theorem variableLength_eq_none_iff : variableLength cs = none ↔ cs.takeWhile isWord = [] := by
  rw [← List.length_eq_zero_iff, variableLength]
  cases (cs.takeWhile isWord).length <;> simp

theorem variableLength_eq_some_iff :
    variableLength cs = some n ↔ (cs.takeWhile isWord).length = n ∧ n ≠ 0 := by
  rw [variableLength]
  cases (cs.takeWhile isWord).length with
  | zero => simp [eq_comm]
  | succ m =>
    simp only [Option.some.injEq]
    omega

/-- A name is a word and ends where no character of a word follows. -/
theorem variableLength_append_iff : variableLength (text ++ rest) = some text.length ↔
    text ≠ [] ∧ (∀ c ∈ text, isWord c = true) ∧ rest.takeWhile isWord = [] := by
  rw [variableLength_eq_some_iff, length_takeWhile_append_iff, ne_eq, List.length_eq_zero_iff,
    and_comm]

/-- A name stays the same if what comes after it is changed. -/
theorem variableLength_congr (h : variableLength (text ++ rest) = some text.length)
    (hname : rest.takeWhile isWord = [] → more.takeWhile isWord = []) :
    variableLength (text ++ more) = some text.length := by
  obtain ⟨hne, htext, hrest⟩ := variableLength_append_iff.1 h
  exact variableLength_append_iff.2 ⟨hne, htext, hname hrest⟩

theorem opened_eq {build : List Char → Token} {length? other? : Option Nat} {text : List Char}
    {piece : Token} (h : opened c (text ++ rest) build length? = (piece, text.length))
    (hnone : text = [] → length? = none → other? = none)
    (hsome : length? = some text.length → other? = some text.length) :
    opened c (text ++ more) build other? = (piece, text.length) := by
  cases length? with
  | none =>
    simp only [opened, Prod.mk.injEq] at h
    rw [hnone (List.length_eq_zero_iff.1 h.2.symm) rfl]
    simp only [opened, h.1, h.2]
  | some n =>
    simp only [opened, Prod.mk.injEq] at h
    obtain ⟨hpiece, rfl⟩ := h
    rw [hsome rfl]
    simp only [opened, Prod.mk.injEq, List.take_left, and_true] at hpiece ⊢
    exact hpiece

/-- Whether a character opens a string. -/
def IsQuote (c : Char) : Prop := c = '"' ∨ c = '\''

theorem IsQuote.ne_backslash (h : IsQuote q) : q ≠ '\\' := by
  rcases h with rfl | rfl <;> decide

theorem first_of_isQuote (h : IsQuote c) (cs : List Char) :
    first c cs = opened c cs (fun rest => quoted (c :: rest)) (stringLength c cs) :=
  if_pos h

/-- A piece stays the same piece if what comes after it is changed, provided that a comment is
followed by the end of its line as before, a name by no character of a word, and what could not
become a string or an IRI before cannot become one now. -/
theorem first_congr {text : List Char} {piece : Token}
    (h : first c (text ++ rest) = (piece, text.length))
    (hcomment : c = '#' → rest.takeWhile (· != '\n') = [] → more.takeWhile (· != '\n') = [])
    (hname : rest.takeWhile isWord = [] → more.takeWhile isWord = [])
    (hiri : iriLength rest = none → iriLength more = none)
    (hstring : IsQuote c → text = [] → stringLength c rest = none → stringLength c more = none)
    (hempty : IsQuote c → text = [c] → (rest.head? = some c → longStringLength c rest.tail = none) →
      more.head? = some c → longStringLength c more.tail = none) :
    first c (text ++ more) = (piece, text.length) := by
  unfold first at h ⊢
  split at h
  · next hq =>
    have hquote : IsQuote c := hq
    rw [if_pos hq]
    refine opened_eq h (fun htext => ?_) fun hlength =>
      stringLength_congr hquote.ne_backslash hlength (hempty hquote)
    subst htext
    exact hstring hquote rfl
  next hq =>
  rw [if_neg hq]
  split at h
  · next hc =>
    rw [if_pos hc]
    refine opened_eq h (fun htext => ?_) fun hlength => iriLength_append hlength (by simp) more
    subst htext
    exact hiri
  next hc =>
  rw [if_neg hc]
  split at h
  · next hc =>
    rw [if_pos hc]
    refine opened_eq h (fun _ hnone => nomatch hnone) fun hlength => ?_
    obtain ⟨htext, hrest⟩ := length_takeWhile_append_iff.1 (Option.some.inj hlength)
    exact congrArg some (length_takeWhile_append_iff.2 ⟨htext, hcomment hc hrest⟩)
  next hc =>
  rw [if_neg hc]
  split at h
  · next hc =>
    rw [if_pos hc]
    exact h
  next hc =>
  rw [if_neg hc]
  split at h
  · next hc =>
    rw [if_pos hc]
    refine opened_eq h (fun htext => ?_) fun hlength => variableLength_congr hlength hname
    subst htext
    rw [List.nil_append, List.nil_append, variableLength_eq_none_iff, variableLength_eq_none_iff]
    exact hname
  · next hc =>
    rw [if_neg hc]
    exact h

/-! ## Texts of one piece -/

/-- The characters that may open a piece with more than one character, or the pattern. -/
def opening : List Char := ['"', '\'', '<', '#', '\x7b', '?', '$']

theorem first_of_notMem (h : c ∉ opening) (cs : List Char) : first c cs = (other c, 0) := by
  simp only [opening, List.mem_cons, List.not_mem_nil, or_false, not_or] at h
  obtain ⟨hdouble, hsingle, hiri, hcomment, hbrace, hmark, hdollar⟩ := h
  simp [first, hdouble, hsingle, hiri, hcomment, hbrace, hmark, hdollar]

/-- A character is none of the marks if it has a property that none of them has. -/
theorem notMem_of_all {p : Char → Bool} {marks : List Char}
    (hmarks : marks.all (fun d => !p d) = true) (h : p c = true) : c ∉ marks := by
  intro hmem
  have hmark := List.all_eq_true.1 hmarks c hmem
  rw [h] at hmark
  cases hmark

/-- Characters that open nothing are pieces by themselves. -/
theorem scan_of_notMem (h : ∀ c ∈ text, c ∉ opening) (rest : List Char) :
    scan (text ++ rest) = text.map other ++ scan rest := by
  induction text with
  | nil => rfl
  | cons c text ih =>
    have hfirst : first c ([] ++ (text ++ rest)) = (other c, ([] : List Char).length) :=
      first_of_notMem (h c List.mem_cons_self) _
    rw [List.cons_append, ← List.nil_append (text ++ rest), scan_of_first hfirst,
      ih fun d hd => h d (List.mem_cons_of_mem _ hd)]
    rfl

theorem scan_of_all (h : text.all (fun c => !opening.contains c) = true) (rest : List Char) :
    scan (text ++ rest) = text.map other ++ scan rest :=
  scan_of_notMem (by simpa using h) rest

/-- An IRI that ends is a piece. -/
theorem scan_iri (h : ∀ c ∈ text, iriExcludes c = false) (rest : List Char) :
    scan ('<' :: (text ++ '>' :: rest)) = iri ('<' :: (text ++ ['>'])) :: scan rest := by
  have hlength : iriLength (text ++ ['>'] ++ rest) = some (text ++ ['>']).length := by
    induction text with
    | nil => rfl
    | cons c text ih =>
      have hc := h c List.mem_cons_self
      have hne : c ≠ '>' := by
        rintro rfl
        revert hc
        decide
      rw [List.cons_append, List.cons_append, iriLength_cons, if_neg hne, hc, if_neg (by decide),
        ih fun d hd => h d (List.mem_cons_of_mem _ hd)]
      rfl
  have hfirst : first '<' (text ++ ['>'] ++ rest) =
      (iri ('<' :: (text ++ ['>'])), (text ++ ['>']).length) := by
    simp only [first, hlength, opened, List.take_left]
    rfl
  rw [← scan_of_first hfirst]
  simp

/-- A name that ends is a piece. -/
theorem scan_variable (hc : c = '?' ∨ c = '$') (hne : text ≠ [])
    (h : ∀ d ∈ text, isWord d = true) (hrest : rest.takeWhile isWord = []) :
    scan (c :: (text ++ rest)) = var c text :: scan rest := by
  have hlength := variableLength_append_iff.2 ⟨hne, h, hrest⟩
  have hfirst : first c (text ++ rest) = (var c text, text.length) := by
    rcases hc with rfl | rfl <;> simp [first, hlength, opened]
  exact scan_of_first hfirst

/-! ## What opens a piece -/

/-- What is known of a piece that `c` opens and that takes `n` of the characters `cs` after it. -/
def OpenedBy (c : Char) (cs : List Char) (n : Nat) : Token → Prop
  | quoted _ => IsQuote c ∧ stringLength c cs = some n
  | iri _ => c = '<' ∧ iriLength cs = some n
  | comment _ => c = '#' ∧ commentLength cs = n
  | openBrace => c = '\x7b' ∧ n = 0
  | var mark _ => (c = '?' ∨ c = '$') ∧ mark = c ∧ variableLength cs = some n
  | other d => d = c ∧ n = 0

theorem opened_cases {build : List Char → Token} {length? : Option Nat} {piece : Token}
    (h : opened c cs build length? = (piece, n)) :
    (length? = some n ∧ piece = build (cs.take n)) ∨ (piece = other c ∧ n = 0) := by
  cases length? with
  | none =>
    simp only [opened, Prod.mk.injEq] at h
    exact .inr ⟨h.1.symm, h.2.symm⟩
  | some m =>
    simp only [opened, Prod.mk.injEq] at h
    obtain ⟨rfl, rfl⟩ := h
    exact .inl ⟨rfl, rfl⟩

/-- What opens the first piece of a text, and how far it reaches.

**Proof sketch.** The cases are those of the definition; in each of them a piece of one kind or a
single character comes out. -/
theorem openedBy_of_first {piece : Token} (h : first c cs = (piece, n)) :
    OpenedBy c cs n piece := by
  unfold first at h
  split at h
  · next hc => rcases opened_cases h with ⟨hn, rfl⟩ | ⟨rfl, rfl⟩ <;> simp [OpenedBy, IsQuote, *]
  split at h
  · next hc => rcases opened_cases h with ⟨hn, rfl⟩ | ⟨rfl, rfl⟩ <;> simp [OpenedBy, *]
  split at h
  · next hc => rcases opened_cases h with ⟨hn, rfl⟩ | ⟨rfl, rfl⟩ <;> simp_all [OpenedBy]
  split at h
  · next hc =>
    obtain ⟨rfl, rfl⟩ := Prod.mk.inj h
    exact ⟨hc, rfl⟩
  split at h
  · next hc => rcases opened_cases h with ⟨hn, rfl⟩ | ⟨rfl, rfl⟩ <;> simp [OpenedBy, *]
  · obtain ⟨rfl, rfl⟩ := Prod.mk.inj h
    exact ⟨rfl, rfl⟩

/-- A comment begins with a hash sign. -/
theorem eq_hash_of_first (h : (first c cs).1 = comment text) : c = '#' :=
  (openedBy_of_first (Prod.ext h rfl : first c cs = (comment text, _))).1

/-- A variable has a mark and a name. -/
theorem variable_of_mem_scan {mark : Char} {name : List Char} (h : var mark name ∈ scan cs) :
    (mark = '?' ∨ mark = '$') ∧ name ≠ [] ∧ ∀ c ∈ name, isWord c = true := by
  induction cs using scanInduction with
  | nil => simp at h
  | cons c text rest piece hfirst hchars ih =>
    rw [scan_of_first hfirst, List.mem_cons] at h
    rcases h with rfl | h
    · obtain ⟨rfl, rfl⟩ := List.cons.inj hchars
      obtain ⟨hmark, -, hlength⟩ := openedBy_of_first hfirst
      obtain ⟨hne, hname, -⟩ := variableLength_append_iff.1 hlength
      exact ⟨hmark, hne, hname⟩
    · exact ih h

end Token

end ServiceClause
