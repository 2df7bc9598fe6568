import ServiceClause.Json.Decode
import ServiceClause.Json.Reader
import ServiceClause.Term

/-!
# Tagged terms

Terms as JSON values that name their kind: an object with one member, whose key is the kind. This is
the form in which terms are stored.

## Main definitions

* `ServiceClause.Term.toTagged`, `ServiceClause.Term.ofTagged?` — writing and reading a term.
* `ServiceClause.Term.readTagged?` — reading a document that holds a term.

## Main statements

* `ServiceClause.Term.ofTagged?_toTagged` — what is written is read back.
-/

set_option autoImplicit false

namespace ServiceClause

open Json

/-- An object with one member. -/
def tagged (tag : String) (v : Json) : Json := .object [(some tag, v)]

/-- The tag and the value of an object with one member. -/
def untagged? : Json → Option (String × Json)
  | .object [(some tag, v)] => some (tag, v)
  | _ => none

namespace Annotation

/-- The annotation with the name of its kind. -/
def toTagged : Annotation → Json
  | plain => .text "None"
  | language tag => tagged "Language" (.text tag)
  | datatype iri => tagged "Datatype" (.text iri)

/-- The annotation that a value with the name of a kind denotes. -/
def ofTagged? : Json → Option Annotation
  | .str s => if s = some "None" then some plain else none
  | v => do
    let (tag, content) ← untagged? v
    match tag, content with
    | "None", .null => some plain
    | "Language", content => (asText? content).map language
    | "Datatype", content => (asText? content).map datatype
    | _, _ => none

@[simp] theorem ofTagged?_toTagged (a : Annotation) : ofTagged? a.toTagged = some a := by
  cases a <;> rfl

end Annotation

namespace Literal

/-- The fields of a literal. -/
def shape : RecordShape := ⟨["lexical", "annotation"], 2, true⟩

/-- The literal as a record. -/
def toTagged (l : Literal) : Json :=
  .object [(some "lexical", .text l.lexical), (some "annotation", l.annotation.toTagged)]

/-- The literal that a record denotes. -/
def ofTagged? (v : Json) : Option Literal := do
  match ← shape.fields? v with
  | [lexical, annotation] =>
    return ⟨← required? asText? lexical, ← required? Annotation.ofTagged? annotation⟩
  | _ => none

@[simp] theorem ofTagged?_toTagged (l : Literal) : ofTagged? l.toTagged = some l := by
  obtain ⟨lexical, annotation⟩ := l
  have h : shape.fields? (toTagged ⟨lexical, annotation⟩) =
      some [some (.text lexical), some annotation.toTagged] := rfl
  simp [ofTagged?, h, required?, Json.text, asText?]

end Literal

namespace Term

/-- The term with the name of its kind. -/
def toTagged : Term → Json
  | iri i => tagged "Iri" (.text i)
  | literal l => tagged "Literal" l.toTagged
  | blankNode label => tagged "BlankNode" (.text label)

/-- The term that a value with the name of a kind denotes. -/
def ofTagged? (v : Json) : Option Term := do
  let (tag, content) ← untagged? v
  match tag with
  | "Iri" => (asText? content).map iri
  | "Literal" => (Literal.ofTagged? content).map literal
  | "BlankNode" => (asText? content).map blankNode
  | _ => none

/-- The term that a document denotes. -/
def readTagged? (document : String) : Option Term :=
  (Json.read (symbolsOf document)).bind ofTagged?

theorem ofTagged?_toTagged (t : Term) : ofTagged? t.toTagged = some t := by
  cases t with
  | iri i => rfl
  | literal l => simp [ofTagged?, toTagged, tagged, untagged?]
  | blankNode label => rfl

end Term

end ServiceClause
