import ServiceClause.RowIterator

/-!
# Row sources

The rows for which a clause is evaluated come from a source. It hands them out one by one, may fail
in between, and is closed when no more rows are wanted. A closed source hands out nothing. A source
remembers everything that it has been asked, also after its end and after it has been closed.

## Main definitions

* `ServiceClause.SourceCall` — what is asked of a source.
* `ServiceClause.Source` — a source at hand.
* `ServiceClause.Source.next`, `ServiceClause.Source.close` — its two operations.
-/

set_option autoImplicit false

namespace ServiceClause

/-- What is asked of a source. -/
inductive SourceCall where
  /-- The next item, of which there may be none. -/
  | pull (answer : Option Item)
  /-- To close. -/
  | close

namespace SourceCall

/-- Whether the source hands out an item. -/
def handsOut : SourceCall → Bool
  | .pull answer => answer.isSome
  | .close => false

/-- Whether the source is asked to close. -/
def closes : SourceCall → Bool
  | .pull _ => false
  | .close => true

end SourceCall

/-- A source of rows, any of which may be an error. -/
structure Source where
  /-- What is still to be handed out. -/
  items : List Item
  /-- What the source has been asked so far, in this order. -/
  calls : List SourceCall

namespace Source

/-- The source of the given items. -/
def ofItems (items : List Item) : Source := ⟨items, []⟩

/-- How many items have been handed out. -/
def pulled (s : Source) : Nat := s.calls.countP SourceCall.handsOut

/-- How often the source has been closed. -/
def closings (s : Source) : Nat := s.calls.countP SourceCall.closes

/-- Whether the source has been closed. -/
def isClosed (s : Source) : Bool := s.closings ≠ 0

/-- The source that remembers one more call. -/
def record (s : Source) (call : SourceCall) : Source := { s with calls := s.calls ++ [call] }

/-- Hands out the next item, if there is one, and gives the source after that. -/
def next (s : Source) : Option Item × Source :=
  if s.isClosed then (none, s.record (.pull none))
  else match s.items with
    | [] => (none, s.record (.pull none))
    | item :: rest => (some item, { s with items := rest }.record (.pull (some item)))

/-- Closes the source. -/
def close (s : Source) : Source := s.record .close

theorem pulled_close (s : Source) : s.close.pulled = s.pulled := by
  rw [pulled, close, record, List.countP_append]
  rfl

section

variable {s t : Source} {answer : Option Item}

/-- Every pull is remembered with its answer, on whatever source. -/
theorem calls_of_next (h : s.next = (answer, t)) : t.calls = s.calls ++ [.pull answer] := by
  unfold next at h
  split at h
  · cases h
    rfl
  · split at h <;> cases h <;> rfl

/-- What a source hands out was its first item. -/
theorem items_of_next (h : s.next = (answer, t)) : answer.toList ++ t.items = s.items := by
  unfold next at h
  split at h
  · cases h
    rfl
  · split at h
    · next heq =>
      cases h
      simp [record]
    · next heq =>
      cases h
      simp [record, heq]

theorem length_of_next {item : Item} (h : s.next = (some item, t)) :
    t.items.length + 1 = s.items.length := by
  rw [← items_of_next h, Option.toList_some, List.singleton_append, List.length_cons]

/-- An open source that hands out nothing has nothing left. -/
theorem items_eq_nil_of_next (h : s.next = (none, t)) (hopen : s.closings = 0) :
    s.items = [] := by
  unfold next isClosed at h
  simp only [hopen, ne_eq, not_true_eq_false, decide_false, Bool.false_eq_true, ↓reduceIte] at h
  split at h
  · assumption
  · simp at h

theorem closings_of_next (h : s.next = (answer, t)) : t.closings = s.closings := by
  rw [closings, calls_of_next h, List.countP_append]
  rfl

/-- A source counts the items that it hands out. -/
theorem pulled_of_next (h : s.next = (answer, t)) :
    t.pulled = s.pulled + answer.toList.length := by
  rw [pulled, calls_of_next h, List.countP_append]
  cases answer <;> rfl

end

end Source

end ServiceClause
