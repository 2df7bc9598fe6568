import ServiceClause.Json.Decode
import ServiceClause.Term

/-!
# Terms in result documents

A result document writes a term as a record of its kind, its value and perhaps a language or a
datatype. Any kind can be written; only some are understood.

## Main definitions

* `ServiceClause.ResultTerm` — a term as a result document writes it.
* `ServiceClause.ResultTerm.ofTerm`, `ServiceClause.ResultTerm.toTerm` — writing and understanding.
* `ServiceClause.ResultTerm.toJson`, `ServiceClause.ResultTerm.ofJson?` — the record.

## Main statements

* `ServiceClause.ResultTerm.toTerm_ofTerm`, `ServiceClause.ResultTerm.ofJson?_toJson`.
-/

set_option autoImplicit false

namespace ServiceClause

open Json

/-- A term as a result document writes it. -/
structure ResultTerm where
  /-- The name of the kind. -/
  kind : String
  /-- The IRI, lexical form or label. -/
  value : String
  /-- The language tag. -/
  language? : Option String
  /-- The datatype. -/
  datatype? : Option String
deriving DecidableEq, Repr

namespace ResultTerm

/-- The annotation that a language and a datatype stand for: the language wins. -/
def annotation (language? datatype? : Option String) : Annotation :=
  match language?, datatype? with
  | some tag, _ => .language tag
  | none, some iri => .datatype iri
  | none, none => .plain

/-- The term that is meant, if its kind is known. -/
def toTerm (t : ResultTerm) : Except FederationError Term :=
  match t.kind with
  | "uri" => .ok (.iri t.value)
  | "literal" => .ok (.literal ⟨t.value, annotation t.language? t.datatype?⟩)
  | "typed-literal" => .ok (.literal ⟨t.value, annotation t.language? t.datatype?⟩)
  | "bnode" => .ok (.blankNode t.value)
  | kind => .error (.unknownTermKind kind)

/-- How a term is written. -/
def ofTerm : Term → ResultTerm
  | .iri i => ⟨"uri", i, none, none⟩
  | .literal l => ⟨"literal", l.lexical, l.annotation.language?, l.annotation.datatype?⟩
  | .blankNode label => ⟨"bnode", label, none, none⟩

@[simp] theorem toTerm_ofTerm (t : Term) : (ofTerm t).toTerm = .ok t := by
  rcases t with i | ⟨lexical, _ | tag | iri⟩ | label <;> rfl

/-- The fields of the record. -/
def shape : RecordShape := ⟨["type", "value", "xml:lang", "datatype"], 2, true⟩

/-- The record, its members in the order of their keys. -/
def toJson (t : ResultTerm) : Json :=
  .record [("datatype", t.datatype?.map .text), ("type", some (.text t.kind)),
    ("value", some (.text t.value)), ("xml:lang", t.language?.map .text)]

/-- The term that a record denotes. -/
def ofJson? (v : Json) : Option ResultTerm := do
  match ← shape.fields? v with
  | [kind, value, language, datatype] =>
    return ⟨← required? asText? kind, ← required? asText? value, ← optional? asText? language,
      ← optional? asText? datatype⟩
  | _ => none

@[simp] theorem ofJson?_toJson (t : ResultTerm) : ofJson? t.toJson = some t := by
  rcases t with ⟨kind, value, _ | language, _ | datatype⟩ <;> rfl

end ResultTerm

end ServiceClause
