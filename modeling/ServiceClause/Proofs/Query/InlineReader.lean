import ServiceClause.Query.Token
import ServiceClause.Row

/-!
# A reader of inline data

Inline data is the keyword `VALUES`, the variables in parentheses, and in braces the tuples, each
of them in parentheses. A value in a tuple is an IRI in angle brackets, a string, which may have a
language tag or a datatype, or the keyword `UNDEF`. A string stands between two quotes of either
kind or between three and three of them, and holds escapes. White space and comments may stand
between any two lexemes. This is the grammar of the query language, numbers, booleans and
abbreviated IRIs left out.

The reader scans the text character by character, in a mode that says what the character is part of,
and then reads the lexemes that it has found.

## Main definitions

* `ServiceClause.InlineData.Lexeme` — the lexemes.
* `ServiceClause.InlineData.Mode.step` — what a character does in a mode.
* `ServiceClause.InlineData.Block` — a block of inline data.
* `ServiceClause.InlineData.read` — the block that a text denotes, if it is one.
-/

set_option autoImplicit false

namespace ServiceClause

namespace InlineData

/-! ## Lexemes -/

/-- A lexeme of inline data. -/
inductive Lexeme where
  /-- A parenthesis or a brace. -/
  | mark (c : Char)
  /-- A keyword. -/
  | word (chars : List Char)
  /-- The name of a variable, without its mark. -/
  | name (chars : List Char)
  /-- An IRI, without its brackets. -/
  | iri (chars : List Char)
  /-- A string, without its quotes and with its escapes resolved. -/
  | text (chars : List Char)
  /-- A language tag, without the at sign. -/
  | language (chars : List Char)
  /-- The two carets before a datatype. -/
  | typeMark
deriving DecidableEq

/-- What the scanner is in the middle of, with the characters of it that have been read. -/
inductive Mode where
  /-- Nothing. -/
  | between
  /-- A comment. -/
  | comment
  /-- A keyword. -/
  | word (chars : List Char)
  /-- The name of a variable. -/
  | name (chars : List Char)
  /-- An IRI. -/
  | iri (chars : List Char)
  /-- The first quote of a string has been read. -/
  | opened (quote : Char)
  /-- Two quotes have been read, which may be an empty string or begin a long one. -/
  | emptied (quote : Char)
  /-- A string, which is long if it began with three quotes. -/
  | text (long : Bool) (quote : Char) (chars : List Char)
  /-- An escape in a string. -/
  | escape (long : Bool) (quote : Char) (chars : List Char)
  /-- Some quotes in a long string, which may end it. -/
  | closing (quote : Char) (chars : List Char) (quotes : Nat)
  /-- The first caret has been read. -/
  | caret
  /-- A language tag: whether a hyphen has been read, and whether a part of it begins. -/
  | tag (chars : List Char) (later fresh : Bool)
deriving DecidableEq

/-- Whether a character is white space. -/
def isSpace (c : Char) : Bool := c == ' ' || c == '\t' || c == '\n' || c == '\r'

/-- The character that an escape stands for. -/
def escaped? (c : Char) : Option Char :=
  [('t', '\t'), ('b', '\x08'), ('n', '\n'), ('r', '\r'), ('f', '\x0c'), ('"', '"'), ('\'', '\''),
    ('\\', '\\')].lookup c

namespace Mode

/-- What a character between two lexemes does. -/
def start (c : Char) : Option (List Lexeme × Mode) :=
  if isSpace c then some ([], between)
  else if c = '#' then some ([], comment)
  else if c = '(' ∨ c = ')' ∨ c = '\x7b' ∨ c = '\x7d' then some ([.mark c], between)
  else if c = '?' ∨ c = '$' then some ([], name [])
  else if c = '<' then some ([], iri [])
  else if c = '"' ∨ c = '\'' then some ([], opened c)
  else if c = '@' then some ([], tag [] false true)
  else if c = '^' then some ([], caret)
  else if c.isAlpha then some ([], word [c])
  else none

/-- What a character after a lexeme does that nothing else ends. -/
def startAfter (lexeme : Lexeme) (c : Char) : Option (List Lexeme × Mode) :=
  (start c).map fun (lexemes, mode) => (lexeme :: lexemes, mode)

/-- What a character in a string does. -/
def content (long : Bool) (quote : Char) (chars : List Char) (c : Char) :
    Option (List Lexeme × Mode) :=
  if c = '\\' then some ([], escape long quote chars)
  else if c = quote then
    if long then some ([], closing quote chars 1) else some ([.text chars], between)
  else if !long && (c == '\n' || c == '\r') then none
  else some ([], text long quote (chars ++ [c]))

/-- What a character does: the lexemes that it ends, and the mode after it. -/
def step : Mode → Char → Option (List Lexeme × Mode)
  | between, c => start c
  | comment, c => some ([], if c = '\n' ∨ c = '\r' then between else comment)
  | word chars, c =>
    if c.isAlpha then some ([], word (chars ++ [c])) else startAfter (.word chars) c
  | name chars, c =>
    if isWord c then some ([], name (chars ++ [c]))
    else if chars.isEmpty then none
    else startAfter (.name chars) c
  | iri chars, c =>
    if c = '>' then some ([.iri chars], between)
    else if Token.iriExcludes c then none
    else some ([], iri (chars ++ [c]))
  | opened quote, c => if c = quote then some ([], emptied quote) else content false quote [] c
  | emptied quote, c => if c = quote then some ([], text true quote []) else startAfter (.text []) c
  | text long quote chars, c => content long quote chars c
  | escape long quote chars, c =>
    (escaped? c).map fun given => ([], text long quote (chars ++ [given]))
  | closing quote chars quotes, c =>
    if c = quote then
      if quotes = 2 then some ([.text chars], between)
      else some ([], closing quote chars (quotes + 1))
    else content true quote (chars ++ List.replicate quotes quote) c
  | caret, c => if c = '^' then some ([.typeMark], between) else none
  | tag chars later fresh, c =>
    if c.isAlpha || later && c.isDigit then some ([], tag (chars ++ [c]) later false)
    else if fresh then none
    else if c = '-' then some ([], tag (chars ++ [c]) true true)
    else startAfter (.language chars) c

/-- The lexemes that the end of the text ends. -/
def finish : Mode → Option (List Lexeme)
  | between => some []
  | comment => some []
  | word chars => some [.word chars]
  | name chars => if chars.isEmpty then none else some [.name chars]
  | emptied _ => some [.text []]
  | tag chars _ false => some [.language chars]
  | _ => none

end Mode

/-- The lexemes that end in a text, and the mode after it. -/
def scan (mode : Mode) : List Char → Option (List Lexeme × Mode)
  | [] => some ([], mode)
  | c :: rest => do
    let (lexemes, mode') ← mode.step c
    let (later, mode'') ← scan mode' rest
    return (lexemes ++ later, mode'')

/-- The lexemes of a text. -/
def lexemes (chars : List Char) : Option (List Lexeme) := do
  let (found, mode) ← scan .between chars
  let last ← mode.finish
  return found ++ last

/-! ## Blocks -/

/-- The values of a tuple. One that is undefined is left open. -/
abbrev Tuple := List (Option Term)

/-- A block of inline data. -/
structure Block where
  /-- The variables. -/
  names : List Name
  /-- The tuples. -/
  tuples : List Tuple
  /-- Every tuple has a value for each variable. -/
  arity : ∀ tuple ∈ tuples, tuple.length = names.length

/-- Whether a word is a keyword, which may be written in any case. -/
def isKeyword (keyword : String) (chars : List Char) : Bool :=
  chars.map Char.toUpper == keyword.toList

/-- The variables up to the closing parenthesis, and the lexemes after it. -/
def readNames : List Lexeme → Option (List Name × List Lexeme)
  | .mark ')' :: rest => some ([], rest)
  | .name chars :: rest => (readNames rest).map fun (names, rest) =>
      (String.ofList chars :: names, rest)
  | _ => none

mutual

/-- The tuples up to the closing brace, which ends the block. -/
def readTuples : List Lexeme → Option (List Tuple)
  | .mark '(' :: rest => (readTuple rest).map fun (values, tuples) => values :: tuples
  | [.mark '\x7d'] => some []
  | _ => none

/-- The values up to the closing parenthesis, and the tuples after it. -/
def readTuple : List Lexeme → Option (Tuple × List Tuple)
  | .mark ')' :: rest => (readTuples rest).map fun tuples => ([], tuples)
  | .word chars :: rest =>
    if isKeyword "UNDEF" chars then (readTuple rest).map fun (values, tuples) =>
      (none :: values, tuples)
    else none
  | .iri chars :: rest => (readTuple rest).map fun (values, tuples) =>
      (some (.iri (String.ofList chars)) :: values, tuples)
  | .text chars :: .language tag :: rest => (readTuple rest).map fun (values, tuples) =>
      (some (.literal ⟨String.ofList chars, .language (String.ofList tag)⟩) :: values, tuples)
  | .text chars :: .typeMark :: .iri type :: rest => (readTuple rest).map fun (values, tuples) =>
      (some (.literal ⟨String.ofList chars, .datatype (String.ofList type)⟩) :: values, tuples)
  | .text chars :: rest => (readTuple rest).map fun (values, tuples) =>
      (some (.literal ⟨String.ofList chars, .plain⟩) :: values, tuples)
  | _ => none

end

/-- The block that a list of lexemes denotes. -/
def readBlock : List Lexeme → Option Block
  | .word chars :: .mark '(' :: rest =>
    if isKeyword "VALUES" chars then
      match readNames rest with
      | some (names, .mark '\x7b' :: rest) => do
        let tuples ← readTuples rest
        if arity : ∀ tuple ∈ tuples, tuple.length = names.length then
          return ⟨names, tuples, arity⟩
        else none
      | _ => none
    else none
  | _ => none

/-- The block that a text denotes. -/
def read (text : String) : Option Block := (lexemes text.toList).bind readBlock

end InlineData

end ServiceClause
