import ServiceClause.Stream.Basic

/-!
# What a stream delivers

Evaluating a clause without a queue: the rows of the source are cut into batches, the batches are
evaluated one after another, and their results are put together up to the first error. If the source
fails, the rows of the batch that it leaves unfinished are not evaluated, and its error comes last.

## Main definitions

* `ServiceClause.batches` — rows cut into batches.
* `ServiceClause.throughError` — items up to the first error.
* `ServiceClause.Dispatch.reference` — what a stream delivers.
-/

set_option autoImplicit false

namespace ServiceClause

/-- The rows cut into lists of `n`, the last of which may be shorter. -/
def batches (n : Nat) : List Row → List (List Row)
  | [] => []
  | row :: rows => (row :: rows.take (n - 1)) :: batches n (rows.drop (n - 1))
termination_by rows => rows.length
decreasing_by
  simp only [List.length_drop, List.length_cons]
  omega

/-- The items up to the first error, which is the last of them. -/
def throughError : List Item → List Item
  | [] => []
  | .ok row :: rest => .ok row :: throughError rest
  | .error e :: _ => [.error e]

/-- The first error among items. -/
def firstError? : List Item → Option FederationError
  | [] => none
  | .ok _ :: rest => firstError? rest
  | .error e :: _ => some e

/-- The rows before the first error. -/
def rowsBeforeError : List Item → List Row
  | .ok row :: rest => row :: rowsBeforeError rest
  | _ => []

namespace Dispatch

variable {σ : Type}

/-- The items of the batches up to the first error, and `ending` if there is none. -/
def deliver (d : Dispatch σ) (ending : List Item) : List (List Row) → σ → List Item × σ
  | [], w => (ending, w)
  | batch :: rest, w =>
    match (d.evaluation batch).runToEnd d.service w with
    | (.error e, w') => ([.error e], w')
    | (.ok rows, w') =>
      let items := rows.toList
      if (firstError? items).isSome then (throughError items, w')
      else ((items ++ (d.deliver ending rest w').1), (d.deliver ending rest w').2)

/-- What a stream delivers from the given source, and the state of the service after it. -/
def reference (d : Dispatch σ) (source : List Item) (w : σ) : List Item × σ :=
  let cut := batches d.config.blockSize (rowsBeforeError source)
  match firstError? source with
  | none => d.deliver [] cut w
  | some e => d.deliver [.error e] (cut.filter (·.length = d.config.blockSize)) w

end Dispatch

end ServiceClause
