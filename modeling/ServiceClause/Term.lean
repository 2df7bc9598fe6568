import ServiceClause.Error

/-!
# Terms

A term is what a variable is bound to: an IRI, a literal or a blank node. IRIs and literals can be
written into the text of a query; a blank node cannot, since its label means something only in the
document that it comes from.

## Main definitions

* `ServiceClause.Term` — the three kinds of terms.
* `ServiceClause.Term.queryText` — the term as query text.
* `ServiceClause.Term.text` — the term as shown to people.
* `ServiceClause.Term.value` — the bare IRI, lexical form or label.
-/

set_option autoImplicit false

namespace ServiceClause

/-- What a literal carries besides its lexical form. -/
inductive Annotation where
  /-- Nothing. -/
  | plain
  /-- A language tag. -/
  | language (tag : String)
  /-- The IRI of a datatype. -/
  | datatype (iri : String)
deriving DecidableEq, Repr

/-- A literal value. -/
structure Literal where
  /-- The lexical form. -/
  lexical : String
  /-- The language or the datatype. -/
  annotation : Annotation
deriving DecidableEq, Repr

/-- What a variable is bound to. -/
inductive Term where
  /-- A resource named by its IRI. -/
  | iri (iri : String)
  /-- A literal value. -/
  | literal (literal : Literal)
  /-- A resource named by a label that is local to one document. -/
  | blankNode (label : String)
deriving DecidableEq, Repr

namespace Annotation

/-- The language tag, if there is one. -/
def language? : Annotation → Option String
  | language tag => some tag
  | _ => none

/-- The IRI of the datatype, if there is one. -/
def datatype? : Annotation → Option String
  | datatype iri => some iri
  | _ => none

/-- The annotation as query text, which follows the closing quote. -/
def queryText : Annotation → String
  | plain => ""
  | language tag => "@" ++ tag
  | datatype iri => "^^<" ++ iri ++ ">"

end Annotation

namespace Literal

/-- The characters that stand for `c` between double quotes. -/
def escapeChar (c : Char) : List Char :=
  if c = '\\' then ['\\', '\\']
  else if c = '"' then ['\\', '"']
  else if c = '\n' then ['\\', 'n']
  else if c = '\r' then ['\\', 'r']
  else [c]

/-- A lexical form as it stands between double quotes. -/
def escape (cs : List Char) : List Char :=
  cs.flatMap escapeChar

/-- The literal as query text. -/
def queryText (l : Literal) : String :=
  "\"" ++ String.ofList (escape l.lexical.toList) ++ "\"" ++ l.annotation.queryText

/-- A literal without language and datatype. -/
def plain (lexical : String) : Literal := ⟨lexical, .plain⟩

end Literal

namespace Term

/-- The IRI, lexical form or label by itself. -/
def value : Term → String
  | iri i => i
  | literal l => l.lexical
  | blankNode label => label

/-- The term as query text; a blank node has none. -/
def queryText : Term → Except FederationError String
  | iri i => .ok ("<" ++ i ++ ">")
  | literal l => .ok l.queryText
  | blankNode label => .error (.blankNode label)

/-- The term as query text, if it has one. -/
def queryText? (t : Term) : Option String :=
  t.queryText.toOption

/-- The term as shown to people. -/
def text : Term → String
  | iri i => "<" ++ i ++ ">"
  | literal l => l.queryText
  | blankNode label => "_:" ++ label

/-- Whether the term is a blank node. -/
def isBlankNode : Term → Bool
  | blankNode _ => true
  | _ => false

@[simp] theorem queryText?_eq_none_iff {t : Term} :
    t.queryText? = none ↔ t.isBlankNode = true := by
  cases t <;> simp [queryText?, queryText, isBlankNode, Except.toOption]

end Term

end ServiceClause
