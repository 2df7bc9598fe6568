import ServiceClause.Json.Basic
import ServiceClause.Text.Decimal
import ServiceClause.Text.Utf8

/-!
# JSON lexemes

A document is cut into lexemes: punctuation marks, and values that have no parts. The escapes in a
text are resolved here. A surrogate escape that is not part of a pair leaves the text undecodable,
and so does a byte that is not UTF-8; the document is still read, because the text may be in a place
that nobody looks at.

## Main definitions

* `ServiceClause.Json.Lexeme` — a mark or a value without parts.
* `ServiceClause.Json.lexemes` — the lexemes of a document, nothing if it cannot be cut.
-/

set_option autoImplicit false

namespace ServiceClause.Json

/-! ## Texts -/

/-- A part of a written text. -/
inductive Piece where
  /-- A character, or a byte that is not UTF-8. -/
  | symbol (s : Symbol)
  /-- A code unit given in hexadecimal digits. -/
  | unit (n : Nat)

/-- The value of a hexadecimal digit in either case. -/
def hexValue? (s : Symbol) : Option Nat :=
  s.bind fun c =>
    if c.isDigit then some (c.toNat - '0'.toNat)
    else if 'a' ≤ c ∧ c ≤ 'f' then some (c.toNat - 'a'.toNat + 10)
    else if 'A' ≤ c ∧ c ≤ 'F' then some (c.toNat - 'A'.toNat + 10)
    else none

/-- The code unit that four hexadecimal digits denote. -/
def unit? (a b c d : Symbol) : Option Nat := do
  return 4096 * (← hexValue? a) + 256 * (← hexValue? b) + 16 * (← hexValue? c) + (← hexValue? d)

/-- The character that a backslash and `c` denote. -/
def escaped? (c : Char) : Option Char :=
  if c = '"' ∨ c = '\\' ∨ c = '/' then some c
  else if c = 'b' then some '\x08'
  else if c = 'f' then some '\x0c'
  else if c = 'n' then some '\n'
  else if c = 'r' then some '\r'
  else if c = 't' then some '\t'
  else none

/-- The pieces of a text up to its closing quotation mark, and what follows that. -/
def pieces : List Symbol → Option (List Piece × List Symbol)
  | [] => none
  | some '"' :: rest => some ([], rest)
  | some '\\' :: some 'u' :: a :: b :: c :: d :: rest => do
    let n ← unit? a b c d
    let (more, after) ← pieces rest
    return (.unit n :: more, after)
  | some '\\' :: some e :: rest => do
    let c ← escaped? e
    let (more, after) ← pieces rest
    return (.symbol (some c) :: more, after)
  | some c :: rest =>
    if c.toNat < 0x20 ∨ c = '\\' then none
    else do
      let (more, after) ← pieces rest
      return (.symbol (some c) :: more, after)
  | none :: rest => do
    let (more, after) ← pieces rest
    return (.symbol none :: more, after)

/-- Whether a code unit is the first half of a pair. -/
def isHighSurrogate (n : Nat) : Bool := 0xd800 ≤ n && n < 0xdc00

/-- Whether a code unit is the second half of a pair. -/
def isLowSurrogate (n : Nat) : Bool := 0xdc00 ≤ n && n < 0xe000

/-- The characters of a text, nothing if some piece is no character. -/
def characters : List Piece → Option (List Char)
  | [] => some []
  | .symbol s :: rest => do return (← s) :: (← characters rest)
  | .unit high :: .unit low :: rest =>
    if isHighSurrogate high then
      if isLowSurrogate low then do
        let c := Char.ofNat (0x10000 + 1024 * (high - 0xd800) + (low - 0xdc00))
        return c :: (← characters rest)
      else none
    else if isLowSurrogate high then none
    else do return Char.ofNat high :: (← characters (.unit low :: rest))
  | .unit n :: rest =>
    if isHighSurrogate n || isLowSurrogate n then none
    else do return Char.ofNat n :: (← characters rest)

/-! ## Numbers and words -/

/-- Whether a character may occur in a number. -/
def isNumeric (s : Symbol) : Bool :=
  s.any fun c => c.isDigit || c == '-' || c == '+' || c == '.' || c == 'e' || c == 'E'

/-- Whether a character may occur in the name of a value. -/
def isLetter (s : Symbol) : Bool := s.any fun c => 'a' ≤ c && c ≤ 'z'

/-- Whether `cs` is an exponent, from its sign on. -/
def isExponent : List Char → Bool
  | '+' :: cs => (decimal? cs).isSome
  | '-' :: cs => (decimal? cs).isSome
  | cs => (decimal? cs).isSome

/-- Whether `cs` is what may follow the whole part of a number: a fraction, an exponent or both. -/
def isTail (cs : List Char) : Bool :=
  let isEnd : List Char → Bool
    | [] => true
    | 'e' :: cs => isExponent cs
    | 'E' :: cs => isExponent cs
    | _ => false
  match cs with
  | '.' :: cs => (decimal? (cs.takeWhile Char.isDigit)).isSome && isEnd (cs.dropWhile Char.isDigit)
  | cs => isEnd cs

/-- The number written as `sign` and `cs`. -/
def unsignedNumber (negative : Bool) (cs : List Char) : Option Json :=
  let whole := cs.takeWhile Char.isDigit
  let tail := cs.dropWhile Char.isDigit
  if whole = [] ∨ (1 < whole.length ∧ whole.head? = some '0') then none
  else if !isTail tail then none
  else
    let n := decimalValue whole
    let written := if negative then '-' :: cs else cs
    if tail ≠ [] ∨ (negative ∧ n = 0) then some (.decimal (String.ofList written))
    else some (.integer (if negative then -(n : Int) else n))

/-- The number that `cs` denotes, without superfluous zeros in front. -/
def number? : List Char → Option Json
  | '-' :: cs => unsignedNumber true cs
  | cs => unsignedNumber false cs

/-- The value that has a name. -/
def named? (cs : List Char) : Option Json :=
  match String.ofList cs with
  | "null" => some .null
  | "true" => some (.bool true)
  | "false" => some (.bool false)
  | _ => none

/-! ## Lexemes -/

/-- A part of a document. -/
inductive Lexeme where
  /-- A punctuation mark. -/
  | mark (c : Char)
  /-- A value that has no parts. -/
  | scalar (v : Json)

/-- Whether `c` is a punctuation mark. -/
def isMark (c : Char) : Bool :=
  c == '[' || c == ']' || c == ',' || c == ':' || c == '\x7b' || c == '\x7d'

/-- Whether `c` may stand between lexemes. -/
def isSpace (c : Char) : Bool := c == ' ' || c == '\t' || c == '\n' || c == '\r'

theorem length_pieces_lt {cs : List Symbol} {l : List Piece} {rest : List Symbol}
    (h : pieces cs = some (l, rest)) : rest.length < cs.length := by
  fun_induction pieces cs generalizing l with
  | case1 => simp at h
  | case2 => simp_all
  | case3 a b c d r ih =>
    simp only [Option.bind_eq_bind, Option.bind_eq_some_iff, Option.pure_def, Option.some.injEq,
      Prod.mk.injEq, Prod.exists] at h
    obtain ⟨n, _, m, after, hm, _, rfl⟩ := h
    have := ih hm
    simp only [List.length_cons]
    omega
  | case4 e r _ ih =>
    simp only [Option.bind_eq_bind, Option.bind_eq_some_iff, Option.pure_def, Option.some.injEq,
      Prod.mk.injEq, Prod.exists] at h
    obtain ⟨c, _, m, after, hm, _, rfl⟩ := h
    have := ih hm
    simp only [List.length_cons]
    omega
  | case5 => simp at h
  | case6 c r _ _ _ _ ih =>
    simp only [Option.bind_eq_bind, Option.bind_eq_some_iff, Option.pure_def, Option.some.injEq,
      Prod.mk.injEq, Prod.exists] at h
    obtain ⟨m, after, hm, _, rfl⟩ := h
    have := ih hm
    simp only [List.length_cons]
    omega
  | case7 r ih =>
    simp only [Option.bind_eq_bind, Option.bind_eq_some_iff, Option.pure_def, Option.some.injEq,
      Prod.mk.injEq, Prod.exists] at h
    obtain ⟨m, after, hm, _, rfl⟩ := h
    have := ih hm
    simp only [List.length_cons]
    omega

/-- The lexemes of a document. -/
def lexemes : List Symbol → Option (List Lexeme)
  | [] => some []
  | none :: _ => none
  | some c :: rest =>
    if isSpace c then lexemes rest
    else if isMark c then do return .mark c :: (← lexemes rest)
    else if c = '"' then
      match _h : pieces rest with
      | none => none
      | some (l, after) => do
        let v := Json.str ((characters l).map String.ofList)
        return .scalar v :: (← lexemes after)
    else if isNumeric (some c) then do
      let v ← number? (c :: (rest.takeWhile isNumeric).filterMap id)
      return .scalar v :: (← lexemes (rest.dropWhile isNumeric))
    else do
      let v ← named? (c :: (rest.takeWhile isLetter).filterMap id)
      return .scalar v :: (← lexemes (rest.dropWhile isLetter))
termination_by cs => cs.length
decreasing_by
  · simp
  · simp
  · have := length_pieces_lt ‹_›
    simp only [List.length_cons]
    omega
  · have := (show (rest.dropWhile isNumeric).Sublist rest from List.dropWhile_sublist _).length_le
    simp only [List.length_cons]
    omega
  · have := (show (rest.dropWhile isLetter).Sublist rest from List.dropWhile_sublist _).length_le
    simp only [List.length_cons]
    omega

end ServiceClause.Json
