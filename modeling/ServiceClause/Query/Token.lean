import ServiceClause.Text.Word

/-!
# The pieces of a query text

A query is cut into the pieces that matter for what is inside quotes, brackets and comments and
what is not: strings, IRIs and comments are pieces as a whole, and so are variables. Every other
character is a piece of its own. Whatever does not form one of the longer pieces, such as a quote
that is never closed, falls apart into single characters, so every text has its pieces and the
pieces put together are the text.

## Main definitions

* `ServiceClause.Token` — a piece of a query.
* `ServiceClause.Token.chars` — the characters of a piece.
* `ServiceClause.Token.scan` — the pieces of a text.

## Main statements

* `ServiceClause.Token.flatMap_chars_scan` — the pieces put together are the text.
-/

set_option autoImplicit false

namespace ServiceClause

/-- A piece of a query text. -/
inductive Token where
  /-- A string with its quotes. -/
  | quoted (chars : List Char)
  /-- An IRI with its angle brackets. -/
  | iri (chars : List Char)
  /-- A comment, from the hash sign to the end of the line. -/
  | comment (chars : List Char)
  /-- An opening brace. -/
  | openBrace
  /-- A variable: question mark or dollar sign, and the name. -/
  | var (mark : Char) (name : List Char)
  /-- Any other character. -/
  | other (c : Char)
deriving DecidableEq, Repr

namespace Token

/-- The characters of a piece. -/
def chars : Token → List Char
  | quoted cs => cs
  | iri cs => cs
  | comment cs => cs
  | openBrace => ['\x7b']
  | var mark name => mark :: name
  | other c => [c]

/-- Whether the piece is an opening brace. -/
def isOpenBrace : Token → Bool
  | openBrace => true
  | _ => false

/-! ## How far a piece reaches

Each function takes the characters after those that open the piece and counts the characters up to
the end of the piece, the closing characters included. -/

/-- The rest of a string between single quote characters `q`: a backslash takes the next character
with it, and the string holds no line break of its own. -/
def shortStringLength (q : Char) : List Char → Option Nat
  | '\\' :: _ :: rest => (shortStringLength q rest).map (· + 2)
  | c :: rest =>
    if c = q then some 1
    else if c = '\\' ∨ c = '\n' ∨ c = '\r' then none
    else (shortStringLength q rest).map (· + 1)
  | [] => none

/-- The rest of a string between three quote characters `q`, which may hold line breaks and up to
two quotes in a row. -/
def longStringLength (q : Char) : List Char → Option Nat
  | '\\' :: _ :: rest => (longStringLength q rest).map (· + 2)
  | c :: rest =>
    if c = q ∧ rest.take 2 = [q, q] then some 3
    else if c = '\\' then none
    else (longStringLength q rest).map (· + 1)
  | [] => none

/-- Whether a character cannot stand in an IRI. -/
def iriExcludes (c : Char) : Bool :=
  c.toNat ≤ 0x20 || "<>\"\x7b\x7d|^`\\".toList.contains c

/-- The rest of an IRI. -/
def iriLength : List Char → Option Nat
  | c :: rest =>
    if c = '>' then some 1
    else if iriExcludes c then none
    else (iriLength rest).map (· + 1)
  | [] => none

/-- The rest of a comment. -/
def commentLength (cs : List Char) : Nat :=
  (cs.takeWhile (· != '\n')).length

/-- The rest of a variable, if a name follows. -/
def variableLength (cs : List Char) : Option Nat :=
  match (cs.takeWhile isWord).length with
  | 0 => none
  | n => some n

/-- The rest of a string that `q` opens, between three quotes if it can be read so. -/
def stringLength (q : Char) (cs : List Char) : Option Nat :=
  let long := if cs.take 2 = [q, q] then (longStringLength q (cs.drop 2)).map (· + 2) else none
  long <|> shortStringLength q cs

/-! ## Scanning -/

/-- The piece that `c` opens and that reaches `length?` characters into `cs`, with this number; `c`
alone if there is no such piece. -/
def opened (c : Char) (cs : List Char) (build : List Char → Token) (length? : Option Nat) :
    Token × Nat :=
  match length? with
  | some n => (build (cs.take n), n)
  | none => (other c, 0)

/-- The piece at the head of `c :: cs` and the number of characters that it takes from `cs`. -/
def first (c : Char) (cs : List Char) : Token × Nat :=
  if c = '"' ∨ c = '\'' then opened c cs (fun rest => quoted (c :: rest)) (stringLength c cs)
  else if c = '<' then opened c cs (fun rest => iri (c :: rest)) (iriLength cs)
  else if c = '#' then opened c cs (fun rest => comment (c :: rest)) (some (commentLength cs))
  else if c = '\x7b' then (openBrace, 0)
  else if c = '?' ∨ c = '$' then opened c cs (var c) (variableLength cs)
  else (other c, 0)

/-- The pieces of a text. -/
def scan : List Char → List Token
  | [] => []
  | c :: cs => (first c cs).1 :: scan (cs.drop (first c cs).2)
termination_by cs => cs.length
decreasing_by simp only [List.length_drop, List.length_cons]; omega

@[simp] theorem scan_nil : scan [] = [] := by
  rw [scan]

theorem scan_cons (c : Char) (cs : List Char) :
    scan (c :: cs) = (first c cs).1 :: scan (cs.drop (first c cs).2) := by
  rw [scan]

theorem chars_opened_append {c : Char} {build : List Char → Token}
    (h : ∀ rest, (build rest).chars = c :: rest) (cs : List Char) (length? : Option Nat) :
    (opened c cs build length?).1.chars ++ cs.drop (opened c cs build length?).2 = c :: cs := by
  cases length? with
  | none => simp [opened, chars]
  | some n => simp [opened, h]

/-- The first piece and what it leaves put together are the text. -/
theorem chars_first_append (c : Char) (cs : List Char) :
    (first c cs).1.chars ++ cs.drop (first c cs).2 = c :: cs := by
  unfold first
  split
  · exact chars_opened_append (fun _ => rfl) _ _
  · split
    · exact chars_opened_append (fun _ => rfl) _ _
    · split
      · exact chars_opened_append (fun _ => rfl) _ _
      · split
        · next h => simp [chars, h]
        · split
          · exact chars_opened_append (fun _ => rfl) _ _
          · simp [chars]

/-- The pieces put together are the text. -/
@[simp] theorem flatMap_chars_scan (cs : List Char) : (scan cs).flatMap chars = cs := by
  fun_induction scan cs with
  | case1 => rfl
  | case2 c cs ih => rw [List.flatMap_cons, ih, chars_first_append]

end Token

end ServiceClause
