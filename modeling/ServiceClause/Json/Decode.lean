import ServiceClause.Json.Basic

/-!
# Decoding JSON values

A record is written as an object, in any order, or as an array of its fields. In an object members
that the record does not know are passed over, but a known one must not occur twice. Decoding gives
nothing when the value does not have the expected shape.

## Main definitions

* `ServiceClause.Json.RecordShape` — the fields of a record and how it may be written.
* `ServiceClause.Json.RecordShape.fields?` — the values of the fields.
* `ServiceClause.Json.asText?`, `asBool?`, `asIntegerIn?`, `asList?`, `asMap?` — simple values.
-/

set_option autoImplicit false

namespace ServiceClause.Json

variable {α : Type}

/-! ## Simple values -/

/-- A text. -/
def asText? : Json → Option String
  | str s => s
  | _ => none

/-- A truth value. -/
def asBool? : Json → Option Bool
  | bool b => some b
  | _ => none

/-- A whole number from `low` to `high`. -/
def asIntegerIn? (low high : Int) : Json → Option Int
  | integer n => if low ≤ n ∧ n ≤ high then some n else none
  | _ => none

/-- A natural number below `2 ^ bits`. -/
def asNat? (bits : Nat) (v : Json) : Option Nat :=
  (asIntegerIn? 0 (Int.ofNat (Nat.pow 2 bits) - 1) v).map Int.toNat

/-- Nothing, or a value. -/
def asOption? (decode : Json → Option α) : Json → Option (Option α)
  | null => some none
  | v => (decode v).map some

/-- A list. -/
def asList? (decode : Json → Option α) : Json → Option (List α)
  | array l => l.mapM decode
  | _ => none

/-- The members of an object, each with its key. Two members may have one key. -/
def asMembers? : Json → Option (List (String × Json))
  | object members => members.mapM fun m => do return (← m.1, m.2)
  | _ => none

/-- A map: every member is decoded. -/
def asMap? (decode : Json → Option α) (v : Json) : Option (List (String × α)) := do
  (← asMembers? v).mapM fun m => do return (m.1, ← decode m.2)

/-- Decoding undoes encoding for a whole list if it does so for each value. -/
theorem mapM_map {β : Type} {encode : α → β} {decode : β → Option α}
    (h : ∀ a, decode (encode a) = some a) (l : List α) : (l.map encode).mapM decode = some l := by
  induction l with
  | nil => rfl
  | cons a l ih => simp [List.mapM_cons, h, ih]

theorem asList?_array {encode : α → Json} {decode : Json → Option α}
    (h : ∀ a, decode (encode a) = some a) (l : List α) :
    asList? decode (.array (l.map encode)) = some l :=
  mapM_map h l

theorem asMembers?_object (l : List (String × Json)) :
    asMembers? (.object (l.map fun m => (some m.1, m.2))) = some l :=
  @mapM_map (String × Json) (Option String × Json) (fun m => (some m.1, m.2))
    (fun m => do return (← m.1, m.2)) (fun _ => rfl) l

theorem asMap?_object {encode : α → Json} {decode : Json → Option α}
    (h : ∀ a, decode (encode a) = some a) (l : List (String × α)) :
    asMap? decode (.object (l.map fun m => (some m.1, encode m.2))) = some l := by
  have hl := asMembers?_object (l.map fun m => (m.1, encode m.2))
  rw [List.map_map] at hl
  rw [asMap?, show (l.map fun m => (some m.1, encode m.2)) = l.map ((fun m => (some m.1, m.2)) ∘
    fun m => (m.1, encode m.2)) from rfl, hl]
  exact mapM_map (fun m => by simp [h]) l

/-! ## Records -/

/-- How a record is written. -/
structure RecordShape where
  /-- The names of the fields, in the order in which an array lists them. -/
  names : List String
  /-- The number of fields that an array has to list. -/
  listed : Nat
  /-- Whether an object may have members that are not fields. -/
  admitsOthers : Bool

/-- The values of the fields in the order of the shape; an omitted field has none. -/
def RecordShape.fields? (shape : RecordShape) : Json → Option (List (Option Json))
  | array l =>
    if shape.listed ≤ l.length ∧ l.length ≤ shape.names.length then
      some (l.map some ++ List.replicate (shape.names.length - l.length) none)
    else none
  | v => do
    let members ← asMembers? v
    let keys := members.map Prod.fst
    if shape.names.any (1 < keys.count ·) then none
    else if !shape.admitsOthers && keys.any (!shape.names.contains ·) then none
    else some (shape.names.map fun n => members.lookup n)

/-- A field that must not be omitted. -/
def required? (decode : Json → Option α) (field : Option Json) : Option α :=
  field.bind decode

/-- A field with a default. -/
def default? (decode : Json → Option α) (d : α) : Option Json → Option α
  | none => some d
  | some v => decode v

/-- A field that may be omitted or nothing. -/
def optional? (decode : Json → Option α) (field : Option Json) : Option (Option α) :=
  default? (asOption? decode) none field

end ServiceClause.Json
