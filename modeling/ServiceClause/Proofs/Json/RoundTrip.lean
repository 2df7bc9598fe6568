import Mathlib.Data.List.TakeWhile
import ServiceClause.Json.Printer
import ServiceClause.Json.Reader

/-!
# Written documents are read back

A document that is written for people is cut into its lexemes again, whatever characters its texts
hold, and read as the value that it was written for. A text ends at its quotation mark, but a number
or the name of a value ends only where something else begins, so there it matters what follows.
Numbers that are not whole are kept as they were written, and are left aside.

## Main definitions

* `ServiceClause.Json.Textual` — a value whose texts are decoded and whose numbers are whole.
* `ServiceClause.Json.Delimited` — what goes on neither with a number nor with a name.
* `ServiceClause.Json.Lexes` — what a part of a document is cut into, whatever follows.
* `ServiceClause.Json.LexesDelimited` — what it is cut into if it ends where a lexeme does.
* `ServiceClause.Json.Readable` — a value that is read back.

## Main statements

* `ServiceClause.Json.lexes_quote` — a text in quotation marks is a lexeme.
* `ServiceClause.Json.number?_toString` — a whole number is read back.
* `ServiceClause.Json.read_pretty_append` — a value is read back, with white space behind it or not.
-/

set_option autoImplicit false

namespace ServiceClause.Json

/-- Whether the texts of a value are decoded and its numbers whole, so that it can be written. -/
inductive Textual : Json → Prop where
  /-- The value that stands for nothing. -/
  | null : Textual .null
  /-- A truth value. -/
  | bool (b : Bool) : Textual (.bool b)
  /-- A whole number. -/
  | integer (n : Int) : Textual (.integer n)
  /-- A text. -/
  | text (s : String) : Textual (text s)
  /-- An array of such values. -/
  | array {elements : List Json} (h : ∀ v ∈ elements, Textual v) : Textual (.array elements)
  /-- An object with such values. -/
  | object {members : List (String × Json)} (h : ∀ m ∈ members, Textual m.2) :
    Textual (.object (members.map fun m => (some m.1, m.2)))

/-! ## Texts -/

/-- The piece that stands for a character. -/
def pieceOf (c : Char) : Piece :=
  if c.toNat < 0x20 ∧ c ≠ '\x08' ∧ c ≠ '\x0c' ∧ c ≠ '\n' ∧ c ≠ '\r' ∧ c ≠ '\t' then .unit c.toNat
  else .symbol (some c)

theorem unit?_hexDigit : ∀ n < 0x20,
    unit? (some '0') (some '0') (some (hexDigit (n / 16))) (some (hexDigit (n % 16))) = some n := by
  decide

theorem pieces_pair {c given : Char} (h : escaped? c = some given) (rest : List Symbol) :
    pieces (some '\\' :: some c :: rest) =
      (pieces rest).map fun (more, after) => (.symbol (some given) :: more, after) := by
  have hu : c ≠ 'u' := by
    rintro rfl
    simp [escaped?] at h
  rw [pieces.eq_4 c rest fun _ _ _ _ _ _ hc => hu hc, h]
  cases pieces rest <;> rfl

theorem pieces_unit {n : Nat} (hn : n < 0x20) (rest : List Symbol) :
    pieces (some '\\' :: some 'u' :: some '0' :: some '0' :: some (hexDigit (n / 16)) ::
        some (hexDigit (n % 16)) :: rest) =
      (pieces rest).map fun (more, after) => (.unit n :: more, after) := by
  rw [pieces, unit?_hexDigit n hn]
  cases pieces rest <;> rfl

theorem pieces_plain {c : Char} (hquote : c ≠ '"') (hbackslash : c ≠ '\\') (hc : ¬ c.toNat < 0x20)
    (rest : List Symbol) :
    pieces (some c :: rest) =
      (pieces rest).map fun (more, after) => (.symbol (some c) :: more, after) := by
  rw [pieces.eq_5 c rest hquote (fun _ _ _ _ _ _ h => hbackslash h) fun _ _ _ h => hbackslash h,
    if_neg (not_or.2 ⟨hc, hbackslash⟩)]
  cases pieces rest <;> rfl

/-- What stands for a character in quotation marks is read as its piece. -/
theorem pieces_quoteChar (c : Char) (rest : List Symbol) :
    pieces ((quoteChar c).map some ++ rest) =
      (pieces rest).map fun (more, after) => (pieceOf c :: more, after) := by
  unfold quoteChar
  split
  · next h => subst h; exact pieces_pair rfl rest
  split
  · next h => subst h; exact pieces_pair rfl rest
  split
  · next h => subst h; exact pieces_pair rfl rest
  split
  · next h => subst h; exact pieces_pair rfl rest
  split
  · next h => subst h; exact pieces_pair rfl rest
  split
  · next h => subst h; exact pieces_pair rfl rest
  split
  · next h => subst h; exact pieces_pair rfl rest
  split
  · next hc =>
    have hpiece : pieceOf c = .unit c.toNat := by simp [pieceOf, *]
    rw [hpiece]
    exact pieces_unit hc rest
  · next hc =>
    have hpiece : pieceOf c = .symbol (some c) := by simp [pieceOf, hc]
    rw [hpiece]
    exact pieces_plain ‹_› ‹_› hc rest

theorem characters_pieceOf_cons (c : Char) (rest : List Piece) :
    characters (pieceOf c :: rest) = (characters rest).map (c :: ·) := by
  unfold pieceOf
  split
  · next h =>
    obtain ⟨hc, -⟩ := h
    have hhigh : isHighSurrogate c.toNat = false := by
      simp only [isHighSurrogate, Bool.and_eq_false_iff, decide_eq_false_iff_not]
      omega
    have hlow : isLowSurrogate c.toNat = false := by
      simp only [isLowSurrogate, Bool.and_eq_false_iff, decide_eq_false_iff_not]
      omega
    have hunit : characters (.unit c.toNat :: rest) =
        (characters rest).bind fun cs => some (Char.ofNat c.toNat :: cs) := by
      cases rest with
      | nil => simp [characters, hhigh, hlow]
      | cons piece rest => cases piece <;> simp [characters, hhigh, hlow]
    rw [hunit, Char.ofNat_toNat]
    cases characters rest <;> rfl
  · rw [characters]
    cases characters rest <;> rfl

/-- The pieces of a text are its characters. -/
theorem characters_map_pieceOf (cs : List Char) : characters (cs.map pieceOf) = some cs := by
  induction cs with
  | nil => rfl
  | cons c cs ih => rw [List.map_cons, characters_pieceOf_cons, ih, Option.map_some]

theorem pieces_quoted (cs : List Char) (rest : List Symbol) :
    pieces ((cs.flatMap quoteChar).map some ++ some '"' :: rest) = some (cs.map pieceOf, rest) := by
  induction cs with
  | nil => simp [pieces]
  | cons c cs ih =>
    rw [List.flatMap_cons, List.map_append, List.append_assoc, pieces_quoteChar, ih]
    rfl

/-! ## Whole numbers -/

/-- The decimal digits of a number other than zero do not begin with a zero. -/
theorem head?_toDigits {n : Nat} (h : n ≠ 0) : (Nat.toDigits 10 n).head? ≠ some '0' := by
  induction n using Nat.strongRecOn with
  | _ n ih =>
    by_cases hsmall : n < 10
    · have hdigit : ∀ m < 10, m ≠ 0 → m.digitChar ≠ '0' := by decide
      rw [Nat.toDigits_of_lt_base hsmall, List.head?_cons]
      exact fun heq => hdigit n hsmall h (Option.some.inj heq)
    · have hfirst := ih (n / 10) (by omega) (by omega)
      obtain ⟨c, cs, hcs⟩ :=
        List.exists_cons_of_ne_nil (Nat.toDigits_ne_nil (n := n / 10) (b := 10))
      rw [Nat.toDigits_of_base_le (by omega) (by omega), hcs]
      rw [hcs] at hfirst
      exact hfirst

theorem isDigit_of_mem_toDigits {n : Nat} {c : Char} (h : c ∈ Nat.toDigits 10 n) :
    c.isDigit = true :=
  Nat.isDigit_of_mem_toDigits (by decide) (by decide) h

/-- The digits of a number are read as the number. A zero has no sign. -/
theorem unsignedNumber_toDigits {negative : Bool} {n : Nat} (h : negative = true → n ≠ 0) :
    unsignedNumber negative (Nat.toDigits 10 n) =
      some (.integer (if negative then -(n : Int) else n)) := by
  have hdigits : ∀ c ∈ Nat.toDigits 10 n, c.isDigit = true := fun _ hc => isDigit_of_mem_toDigits hc
  have hwhole : (Nat.toDigits 10 n).takeWhile Char.isDigit = Nat.toDigits 10 n :=
    List.takeWhile_eq_self_iff.2 hdigits
  have htail : (Nat.toDigits 10 n).dropWhile Char.isDigit = [] :=
    List.dropWhile_eq_nil_iff.2 hdigits
  have hzeros : ¬ (Nat.toDigits 10 n = [] ∨
      (1 < (Nat.toDigits 10 n).length ∧ (Nat.toDigits 10 n).head? = some '0')) := by
    rintro (hnil | ⟨hlength, hhead⟩)
    · exact Nat.toDigits_ne_nil hnil
    · by_cases hn : n = 0
      · subst hn
        exact absurd hlength (by decide)
      · exact head?_toDigits hn hhead
  have hvalue : decimalValue (Nat.toDigits 10 n) = n := Nat.ofDigitChars_ten_toDigits
  have hsigned : ¬ (([] : List Char) ≠ [] ∨ (negative = true ∧ n = 0)) := by
    rintro (hne | ⟨hnegative, hn⟩)
    · exact hne rfl
    · exact h hnegative hn
  unfold unsignedNumber
  simp only [hwhole, htail, hvalue]
  rw [if_neg hzeros, if_neg (by decide), if_neg hsigned]

/-- A whole number is written in digits, perhaps behind a minus sign. -/
theorem toString_integer (n : Int) :
    (∃ m : Nat, n = m ∧ (toString n).toList = Nat.toDigits 10 m) ∨
      ∃ m : Nat, m ≠ 0 ∧ n = -(m : Int) ∧ (toString n).toList = '-' :: Nat.toDigits 10 m := by
  cases n with
  | ofNat m =>
    refine .inl ⟨m, rfl, ?_⟩
    show (Nat.repr m).toList = _
    exact Nat.toList_repr
  | negSucc m =>
    refine .inr ⟨m + 1, Nat.succ_ne_zero m, rfl, ?_⟩
    show ("-" ++ Nat.repr (m + 1)).toList = _
    rw [String.toList_append, Nat.toList_repr]
    rfl

/-- A whole number is read back. -/
theorem number?_toString (n : Int) : number? (toString n).toList = some (.integer n) := by
  rcases toString_integer n with ⟨m, rfl, htext⟩ | ⟨m, hm, rfl, htext⟩
  · have hread : unsignedNumber false (Nat.toDigits 10 m) = some (.integer m) :=
      unsignedNumber_toDigits nofun
    rw [htext]
    unfold number?
    split
    · next cs heq =>
      have hminus : ('-' : Char).isDigit = true :=
        isDigit_of_mem_toDigits (heq ▸ List.mem_cons_self)
      exact absurd hminus (by decide)
    · exact hread
  · rw [htext]
    exact unsignedNumber_toDigits fun _ => hm

/-! ## Lexemes -/

/-- Whether a part of a document is cut into these lexemes, whatever follows it. -/
def Lexes (part : List Symbol) (found : List Lexeme) : Prop :=
  ∀ rest, lexemes (part ++ rest) = (lexemes rest).map (found ++ ·)

/-- The lexemes of one part are put in front of those of the next one and of what follows. -/
theorem map_append_map (found found' : List Lexeme) (later? : Option (List Lexeme)) :
    (later?.map (found' ++ ·)).map (found ++ ·) = later?.map (found ++ found' ++ ·) := by
  rw [Option.map_map]
  congr 1
  funext later
  exact (List.append_assoc _ _ _).symm

theorem Lexes.append {part part' : List Symbol} {found found' : List Lexeme}
    (h : Lexes part found) (h' : Lexes part' found') : Lexes (part ++ part') (found ++ found') := by
  intro rest
  rw [List.append_assoc, h, h', map_append_map]

theorem lexes_nil : Lexes [] [] := fun rest => by simp

theorem lexes_mark {c : Char} (h : isMark c = true) (hspace : isSpace c = false) :
    Lexes [some c] [.mark c] := by
  intro rest
  rw [List.singleton_append, lexemes]
  simp only [hspace, h]
  cases lexemes rest <;> rfl

theorem lexes_space {c : Char} (h : isSpace c = true) : Lexes [some c] [] := by
  intro rest
  rw [List.singleton_append, lexemes, if_pos h]
  cases lexemes rest <;> rfl

/-- The indentation of a line is no lexeme. -/
theorem lexes_newLine (level : Nat) : Lexes (symbolsOf (newLine level)) [] := by
  have hspaces : ∀ n, Lexes ((List.replicate n ' ').map some) [] := by
    intro n
    induction n with
    | zero => exact lexes_nil
    | succ n ih => exact (lexes_space (c := ' ') rfl).append ih
  have hline := (lexes_space (c := '\n') rfl).append (hspaces (2 * level))
  simpa [symbolsOf, newLine] using hline

/-- A text in quotation marks is a lexeme. -/
theorem lexes_quote (s : String) : Lexes (symbolsOf (quote s)) [.scalar (.text s)] := by
  intro rest
  have hquoted : symbolsOf (quote s) ++ rest =
      some '"' :: ((s.toList.flatMap quoteChar).map some ++ some '"' :: rest) := by
    simp [symbolsOf, quote]
  rw [hquoted, lexemes, if_neg (by decide), if_neg (by decide), if_pos rfl]
  split
  · next hnone =>
    rw [pieces_quoted] at hnone
    cases hnone
  · next found after hsome =>
    rw [pieces_quoted] at hsome
    obtain ⟨rfl, rfl⟩ := Prod.mk.inj (Option.some.inj hsome)
    rw [characters_map_pieceOf, Option.map_some, String.ofList_toList]
    cases lexemes rest <;> rfl

/-! ## Lexemes that end where another begins -/

/-- Whether what follows goes on neither with a number nor with a name. -/
def Delimited (rest : List Symbol) : Prop :=
  ∀ s ∈ rest.head?, isNumeric s = false ∧ isLetter s = false

theorem delimited_nil : Delimited [] := nofun

theorem delimited_cons {s : Symbol} (hnumeric : isNumeric s = false) (hletter : isLetter s = false)
    (rest : List Symbol) : Delimited (s :: rest) := by
  intro t ht
  obtain rfl := Option.some.inj ht
  exact ⟨hnumeric, hletter⟩

theorem Delimited.append {part rest : List Symbol} (h : Delimited part) (h' : Delimited rest) :
    Delimited (part ++ rest) := by
  cases part with
  | nil => exact h'
  | cons s part => exact h

/-- A part of a document that ends where a class of characters does is split off there. -/
theorem span_of_delimited {p : Symbol → Bool} {cs : List Char} {rest : List Symbol}
    (h : ∀ c ∈ cs, p (some c) = true) (hrest : ∀ s ∈ rest.head?, p s = false) :
    (cs.map some ++ rest).takeWhile p = cs.map some ∧
      (cs.map some ++ rest).dropWhile p = rest := by
  have hcs : ∀ s ∈ cs.map some, p s = true := by simpa using h
  rw [List.takeWhile_append_of_pos hcs, List.dropWhile_append_of_pos hcs]
  cases rest with
  | nil => simp
  | cons s rest =>
    have hs : p s = false := hrest s rfl
    simp [hs]

/-- Whether a part of a document is cut into these lexemes if what follows does not go on with the
last of them. -/
def LexesDelimited (part : List Symbol) (found : List Lexeme) : Prop :=
  ∀ rest, Delimited rest → lexemes (part ++ rest) = (lexemes rest).map (found ++ ·)

theorem Lexes.delimited {part : List Symbol} {found : List Lexeme} (h : Lexes part found) :
    LexesDelimited part found := fun rest _ => h rest

theorem LexesDelimited.append {part part' : List Symbol} {found found' : List Lexeme}
    (h : LexesDelimited part found) (hpart : Delimited part') (h' : LexesDelimited part' found') :
    LexesDelimited (part ++ part') (found ++ found') := by
  intro rest hrest
  rw [List.append_assoc, h _ (hpart.append hrest), h' _ hrest, map_append_map]

/-- What ends by itself may be followed by anything. -/
theorem Lexes.append_delimited {part part' : List Symbol} {found found' : List Lexeme}
    (h : Lexes part found) (h' : LexesDelimited part' found') :
    LexesDelimited (part ++ part') (found ++ found') := by
  intro rest hrest
  rw [List.append_assoc, h, h' _ hrest, map_append_map]

/-- Numbers and names hold no white space, no punctuation marks and no quotation marks. -/
theorem apart_of_isNumeric_or_isLetter {c : Char}
    (h : isNumeric (some c) = true ∨ isLetter (some c) = true) :
    isSpace c = false ∧ isMark c = false ∧ c ≠ '"' := by
  have hother : [' ', '\t', '\n', '\r', '[', ']', ',', ':', '\x7b', '\x7d', '"'].any
      (fun d => isNumeric (some d) || isLetter (some d)) = false := by decide
  have hc : c ∉ [' ', '\t', '\n', '\r', '[', ']', ',', ':', '\x7b', '\x7d', '"'] :=
    fun hmem => List.any_eq_false.1 hother c hmem (Bool.or_eq_true_iff.2 h)
  simp only [List.mem_cons, List.not_mem_nil, or_false, not_or] at hc
  simp only [isSpace, isMark, Bool.or_eq_false_iff, beq_eq_false_iff_ne, ne_eq, and_assoc]
  exact hc

/-- Digits, perhaps behind a minus sign, are one lexeme. -/
theorem lexes_number {c : Char} {cs : List Char} {v : Json} (hc : isNumeric (some c) = true)
    (hcs : ∀ d ∈ cs, isNumeric (some d) = true) (hv : number? (c :: cs) = some v) :
    LexesDelimited ((c :: cs).map some) [.scalar v] := by
  intro rest hrest
  obtain ⟨hspace, hmark, hquote⟩ := apart_of_isNumeric_or_isLetter (.inl hc)
  obtain ⟨htake, hdrop⟩ := span_of_delimited hcs fun s hs => (hrest s hs).1
  have hform : (cs.map some).filterMap id = cs := by simp
  rw [List.map_cons, List.cons_append, lexemes, if_neg (by simp [hspace]), if_neg (by simp [hmark]),
    if_neg hquote, if_pos hc, htake, hdrop, hform, hv]
  cases lexemes rest <;> rfl

/-- The name of a value is one lexeme. -/
theorem lexes_name {c : Char} {cs : List Char} {v : Json} (hnumeric : isNumeric (some c) = false)
    (hletters : (c :: cs).all (fun d => isLetter (some d)) = true)
    (hv : named? (c :: cs) = some v) :
    LexesDelimited ((c :: cs).map some) [.scalar v] := by
  intro rest hrest
  have hcs : ∀ d ∈ c :: cs, isLetter (some d) = true := List.all_eq_true.1 hletters
  obtain ⟨hspace, hmark, hquote⟩ := apart_of_isNumeric_or_isLetter (.inr (hcs c List.mem_cons_self))
  obtain ⟨htake, hdrop⟩ := span_of_delimited (fun d hd => hcs d (List.mem_cons_of_mem _ hd))
    fun s hs => (hrest s hs).2
  have hform : (cs.map some).filterMap id = cs := by simp
  rw [List.map_cons, List.cons_append, lexemes, if_neg (by simp [hspace]), if_neg (by simp [hmark]),
    if_neg hquote, if_neg (by simp [hnumeric]), htake, hdrop, hform, hv]
  cases lexemes rest <;> rfl

/-- A whole number is one lexeme. -/
theorem lexes_integer (n : Int) :
    LexesDelimited (symbolsOf (toString n)) [.scalar (.integer n)] := by
  have hread := number?_toString n
  have hnumeric : ∀ {m : Nat}, ∀ d ∈ Nat.toDigits 10 m, isNumeric (some d) = true :=
    fun d hd => by simp [isNumeric, isDigit_of_mem_toDigits hd]
  rw [symbolsOf]
  rcases toString_integer n with ⟨m, -, htext⟩ | ⟨m, -, -, htext⟩
  · obtain ⟨c, cs, hcs⟩ := List.exists_cons_of_ne_nil (Nat.toDigits_ne_nil (n := m) (b := 10))
    have hdigits : ∀ d ∈ c :: cs, isNumeric (some d) = true := hcs ▸ hnumeric
    rw [htext, hcs] at hread ⊢
    exact lexes_number (hdigits c List.mem_cons_self)
      (fun d hd => hdigits d (List.mem_cons_of_mem _ hd)) hread
  · rw [htext] at hread ⊢
    exact lexes_number rfl hnumeric hread

/-! ## Values -/

/-- Whether a value is read back from the document that it is written as, at any level and wherever
a value may stand. No value begins with a closing bracket, so it may be the first element. -/
def Readable (v : Json) : Prop :=
  ∀ level, ∃ found, LexesDelimited (symbolsOf (prettyAt level v)) found ∧
    (∀ stack, found.foldlM Reader.step (.value stack) = some (Reader.complete v stack)) ∧
    ∀ stack, found.foldlM Reader.step (.firstElement stack) =
      found.foldlM Reader.step (.value (.array [] :: stack))

theorem symbolsOf_append (s t : String) : symbolsOf (s ++ t) = symbolsOf s ++ symbolsOf t := by
  simp [symbolsOf]

/-- A value that is one lexeme is read back. -/
theorem readable_of_lexes {v : Json}
    (h : ∀ level, LexesDelimited (symbolsOf (prettyAt level v)) [.scalar v]) : Readable v :=
  fun level => ⟨_, h level, fun _ => rfl, fun _ => rfl⟩

theorem readable_null : Readable .null := by
  apply readable_of_lexes
  intro level
  rw [prettyAt]
  exact lexes_name rfl (by decide) rfl

theorem readable_bool (b : Bool) : Readable (.bool b) := by
  apply readable_of_lexes
  intro level
  cases b with
  | false =>
    rw [prettyAt]
    exact lexes_name rfl (by decide) rfl
  | true =>
    rw [prettyAt]
    exact lexes_name rfl (by decide) rfl

theorem readable_integer (n : Int) : Readable (.integer n) := by
  apply readable_of_lexes
  intro level
  rw [prettyAt]
  exact lexes_integer n

theorem readable_text (s : String) : Readable (text s) := by
  apply readable_of_lexes
  intro level
  exact (lexes_quote s).delimited

theorem delimited_newLine (level : Nat) : Delimited (symbolsOf (newLine level)) := by
  rw [newLine, symbolsOf, String.toList_ofList]
  exact delimited_cons rfl rfl _

/-- What closes an array or an object stands on a line of its own, behind any of its parts. -/
theorem LexesDelimited.append_closing {part close : List Symbol} {found ending : List Lexeme}
    (h : LexesDelimited part found) (hclose : Lexes close ending) (hends : Delimited close)
    (level : Nat) :
    LexesDelimited (part ++ (symbolsOf (newLine level) ++ close)) (found ++ ending) := by
  have hline : Lexes (symbolsOf (newLine level) ++ close) ending :=
    (lexes_newLine level).append hclose
  apply h.append _ hline.delimited
  exact (delimited_newLine level).append hends

/-- Elements after the first are read back. -/
theorem exists_elements {rest : List Json} (h : ∀ v ∈ rest, Readable v) (level : Nat) :
    ∃ found, LexesDelimited (symbolsOf (prettyElements level rest)) found ∧
      Delimited (symbolsOf (prettyElements level rest)) ∧
      ∀ before stack, found.foldlM Reader.step (.elementEnd before stack) =
        some (.elementEnd (rest.reverse ++ before) stack) := by
  induction rest with
  | nil => exact ⟨[], lexes_nil.delimited, delimited_nil, fun _ _ => rfl⟩
  | cons v rest ih =>
    obtain ⟨found, hlexes, hread, -⟩ := h v List.mem_cons_self level
    obtain ⟨later, hlater, hends, hrest⟩ := ih fun u hu => h u (List.mem_cons_of_mem _ hu)
    have hcomma : Lexes (symbolsOf ",") [.mark ','] := lexes_mark rfl rfl
    refine ⟨.mark ',' :: (found ++ later), ?_, ?_, fun before stack => ?_⟩
    · have hall := hcomma.append_delimited
        ((lexes_newLine level).append_delimited (hlexes.append hends hlater))
      simpa [prettyElements, symbolsOf_append] using hall
    · rw [prettyElements, String.append_assoc, String.append_assoc, symbolsOf_append]
      exact delimited_cons rfl rfl _
    · rw [List.foldlM_cons]
      change (found ++ later).foldlM Reader.step (.value (.array before :: stack)) = _
      rw [List.foldlM_append, hread]
      simpa [Reader.complete] using hrest (v :: before) stack

theorem readable_array {elements : List Json} (h : ∀ v ∈ elements, Readable v) :
    Readable (.array elements) := by
  intro level
  have hopen : Lexes (symbolsOf "[") [.mark '['] := lexes_mark rfl rfl
  have hclose : Lexes (symbolsOf "]") [.mark ']'] := lexes_mark rfl rfl
  cases elements with
  | nil =>
    refine ⟨[.mark '[', .mark ']'], ?_, fun _ => rfl, fun _ => rfl⟩
    rw [prettyAt]
    exact (hopen.append hclose).delimited
  | cons v rest =>
    obtain ⟨found, hlexes, hread, hfirst⟩ := h v List.mem_cons_self (level + 1)
    obtain ⟨later, hlater, hends, hrest⟩ :=
      exists_elements (fun u hu => h u (List.mem_cons_of_mem _ hu)) (level + 1)
    refine ⟨.mark '[' :: (found ++ (later ++ [.mark ']'])), ?_, fun stack => ?_, fun _ => rfl⟩
    · have hinside := (hlexes.append hends hlater).append_closing hclose
        (delimited_cons rfl rfl []) level
      have hall := hopen.append_delimited ((lexes_newLine (level + 1)).append_delimited hinside)
      simpa [prettyAt, symbolsOf_append] using hall
    · rw [List.foldlM_cons]
      change (found ++ (later ++ [Lexeme.mark ']'])).foldlM Reader.step (.firstElement stack) = _
      rw [List.foldlM_append, hfirst, hread]
      change (later ++ [Lexeme.mark ']']).foldlM Reader.step (.elementEnd [v] stack) = _
      rw [List.foldlM_append, hrest]
      simp [Reader.step]

/-- A member is read back, be it the first one or a later one. -/
theorem exists_member {v : Json} (h : Readable v) (k : String) (level : Nat) :
    ∃ found, LexesDelimited (symbolsOf (prettyMember level (some k, v))) found ∧
      (∀ stack, found.foldlM Reader.step (.firstKey stack) =
        some (.memberEnd [(some k, v)] stack)) ∧
      ∀ before stack, found.foldlM Reader.step (.key before stack) =
        some (.memberEnd ((some k, v) :: before) stack) := by
  obtain ⟨found, hlexes, hread, -⟩ := h level
  have hcolon : Lexes (symbolsOf ": ") [.mark ':'] :=
    (lexes_mark (c := ':') rfl rfl).append (lexes_space (c := ' ') rfl)
  refine ⟨.scalar (.text k) :: .mark ':' :: found, ?_, fun stack => ?_, fun before stack => ?_⟩
  · have hall := (lexes_quote k).append_delimited (hcolon.append_delimited hlexes)
    simpa [prettyMember, symbolsOf_append] using hall
  · exact hread (.object [] (some k) :: stack)
  · exact hread (.object before (some k) :: stack)

/-- Members after the first are read back. -/
theorem exists_members {rest : List (String × Json)} (h : ∀ m ∈ rest, Readable m.2) (level : Nat) :
    ∃ found,
      LexesDelimited (symbolsOf (prettyMembers level (rest.map fun m => (some m.1, m.2)))) found ∧
      Delimited (symbolsOf (prettyMembers level (rest.map fun m => (some m.1, m.2)))) ∧
      ∀ before stack, found.foldlM Reader.step (.memberEnd before stack) =
        some (.memberEnd ((rest.map fun m => (some m.1, m.2)).reverse ++ before) stack) := by
  induction rest with
  | nil => exact ⟨[], lexes_nil.delimited, delimited_nil, fun _ _ => rfl⟩
  | cons m rest ih =>
    obtain ⟨found, hlexes, -, hread⟩ := exists_member (h m List.mem_cons_self) m.1 level
    obtain ⟨later, hlater, hends, hrest⟩ := ih fun u hu => h u (List.mem_cons_of_mem _ hu)
    have hcomma : Lexes (symbolsOf ",") [.mark ','] := lexes_mark rfl rfl
    refine ⟨.mark ',' :: (found ++ later), ?_, ?_, fun before stack => ?_⟩
    · have hall := hcomma.append_delimited
        ((lexes_newLine level).append_delimited (hlexes.append hends hlater))
      simpa [prettyMembers, symbolsOf_append] using hall
    · rw [List.map_cons, prettyMembers, String.append_assoc, String.append_assoc, symbolsOf_append]
      exact delimited_cons rfl rfl _
    · rw [List.foldlM_cons]
      change (found ++ later).foldlM Reader.step (.key before stack) = _
      rw [List.foldlM_append, hread]
      simpa using hrest ((some m.1, m.2) :: before) stack

theorem readable_object {members : List (String × Json)} (h : ∀ m ∈ members, Readable m.2) :
    Readable (.object (members.map fun m => (some m.1, m.2))) := by
  intro level
  have hopen : Lexes (symbolsOf "\x7b") [.mark '\x7b'] := lexes_mark rfl rfl
  have hclose : Lexes (symbolsOf "\x7d") [.mark '\x7d'] := lexes_mark rfl rfl
  cases members with
  | nil =>
    refine ⟨[.mark '\x7b', .mark '\x7d'], ?_, fun _ => rfl, fun _ => rfl⟩
    rw [List.map_nil, prettyAt]
    exact (hopen.append hclose).delimited
  | cons m rest =>
    obtain ⟨found, hlexes, hread, -⟩ := exists_member (h m List.mem_cons_self) m.1 (level + 1)
    obtain ⟨later, hlater, hends, hrest⟩ :=
      exists_members (fun u hu => h u (List.mem_cons_of_mem _ hu)) (level + 1)
    refine ⟨.mark '\x7b' :: (found ++ (later ++ [.mark '\x7d'])), ?_, fun stack => ?_,
      fun _ => rfl⟩
    · have hinside := (hlexes.append hends hlater).append_closing hclose
        (delimited_cons rfl rfl []) level
      have hall := hopen.append_delimited ((lexes_newLine (level + 1)).append_delimited hinside)
      simpa [prettyAt, symbolsOf_append] using hall
    · rw [List.foldlM_cons]
      change (found ++ (later ++ [Lexeme.mark '\x7d'])).foldlM Reader.step (.firstKey stack) = _
      rw [List.foldlM_append, hread]
      change (later ++ [Lexeme.mark '\x7d']).foldlM Reader.step
        (.memberEnd [(some m.1, m.2)] stack) = _
      rw [List.foldlM_append, hrest]
      simp [Reader.step]

theorem readable_of_textual {v : Json} (h : Textual v) : Readable v := by
  induction h with
  | null => exact readable_null
  | bool b => exact readable_bool b
  | integer n => exact readable_integer n
  | text s => exact readable_text s
  | array _ ih => exact readable_array ih
  | object _ ih => exact readable_object ih

/-- **A written document is read back.** A value is read back from the document that is written for
it, whatever characters its texts and keys hold, and also if nothing but white space follows. -/
theorem read_pretty_append {v : Json} {rest : List Symbol} (h : Textual v) (hrest : Delimited rest)
    (hspace : lexemes rest = some []) : read (symbolsOf v.pretty ++ rest) = some v := by
  obtain ⟨found, hlexes, hread, -⟩ := readable_of_textual h 0
  have hall := hlexes rest hrest
  rw [hspace, Option.map_some, List.append_nil] at hall
  have hdone : found.foldlM Reader.step (.value []) = some (.done v) := hread []
  rw [read, pretty, hall]
  simp [hdone, Reader.result?]

/-- A value is read back from the document that is written for it. -/
theorem read_pretty {v : Json} (h : Textual v) : read (symbolsOf v.pretty) = some v := by
  have hread := read_pretty_append h delimited_nil (by rw [lexemes])
  rwa [List.append_nil] at hread

/-- A value is read back from its document as it is printed, with the end of its last line. -/
theorem read_pretty_line {v : Json} (h : Textual v) :
    read (symbolsOf (v.pretty ++ "\n")) = some v := by
  rw [symbolsOf_append]
  have hend : lexemes (symbolsOf "\n") = some [] := by
    change lexemes [some '\n'] = some []
    rw [lexemes, if_pos (by decide), lexemes]
  exact read_pretty_append h (delimited_cons rfl rfl []) hend

/-! ## Arrays and objects made of texts -/

theorem textual_record {members : List (String × Option Json)}
    (h : ∀ m ∈ members, ∀ v, m.2 = some v → v.Textual) : (record members).Textual := by
  have hform : record members = .object
      ((members.filterMap fun m => m.2.map (m.1, ·)).map fun m => (some m.1, m.2)) := by
    simp [record, List.map_filterMap, Option.map_map, Function.comp_def]
  rw [hform]
  refine .object fun m hm => ?_
  obtain ⟨written, hwritten, hvalue⟩ := List.mem_filterMap.1 hm
  obtain ⟨v, hv, rfl⟩ := Option.map_eq_some_iff.1 hvalue
  exact h written hwritten v hv

theorem textual_strings (l : List String) : (strings l).Textual := by
  refine .array fun v hv => ?_
  obtain ⟨s, -, rfl⟩ := List.mem_map.1 hv
  exact .text s

theorem textual_field {key : String} {v : Json} (h : v.Textual) :
    (record [(key, some v)]).Textual := by
  refine textual_record fun m hm w hw => ?_
  obtain rfl := List.mem_singleton.1 hm
  exact Option.some.inj hw ▸ h

end ServiceClause.Json
