import ServiceClause.Batch
import ServiceClause.Source

/-!
# Streams

The rows of a clause are delivered through a queue. A producer pulls rows from the source, evaluates
them batch by batch and puts the results into the queue, in which only so many of them may wait; a
consumer takes them out. Either may be ahead of the other, and the consumer may close the stream at
any moment.

A state says what the producer is doing. It does one small step at a time, so that the operations of
the consumer may come between any two of them.

## Main definitions

* `ServiceClause.Dispatch` — what is evaluated, how and where.
* `ServiceClause.Phase` — what the producer is doing.
* `ServiceClause.Stream` — the state of a stream.
* `ServiceClause.Stream.close`, `ServiceClause.Stream.drop`, `ServiceClause.Stream.pass` — changes
  from outside the producer.
-/

set_option autoImplicit false

namespace ServiceClause

/-- What is evaluated, how and where. -/
structure Dispatch (σ : Type) where
  /-- How. -/
  config : Config
  /-- What. -/
  clause : Descriptor
  /-- Where. -/
  service : Service σ

namespace Dispatch

variable {σ : Type}

/-- The number of items that the queue holds at most. -/
def capacity (d : Dispatch σ) : Nat := max d.config.queueCapacity 1

/-- The evaluation of a batch. -/
def evaluation (d : Dispatch σ) (batch : List Row) : Evaluation (Outcome RowSequence) :=
  evaluateBatch d.config d.clause batch

end Dispatch

/-- What the producer is doing. -/
inductive Phase where
  /-- It is about to begin a batch. -/
  | starting
  /-- It pulls rows into a batch. -/
  | filling (batch : List Row)
  /-- It evaluates a batch. -/
  | evaluating (evaluation : Evaluation (Outcome RowSequence))
  /-- It waits for an answer, with which it will go on evaluating. -/
  | awaiting (left : Duration) (evaluation : Evaluation (Outcome RowSequence))
  /-- It goes through the results of a batch. -/
  | forwarding (rows : RowSequence)
  /-- It wants to put an item into the queue, and to go on with the rest of the results, if any. -/
  | sending (item : Item) (rest : Option RowSequence)
  /-- It is about to close the source. -/
  | closing
  /-- It has ended. -/
  | finished

/-- The state of a stream. `σ` are the states of the service. -/
structure Stream (σ : Type) where
  /-- The source of input rows. -/
  source : Source
  /-- What the producer is doing. -/
  phase : Phase
  /-- The state of the service. -/
  world : σ
  /-- The items that wait for the consumer. -/
  queue : List Item
  /-- Whether the consumer has closed the stream. -/
  closed : Bool
  /-- Whether the consumer has closed the stream or seen its end. -/
  ended : Bool

namespace Stream

variable {σ : Type}

/-- The stream at its beginning. -/
def start (source : Source) (world : σ) : Stream σ :=
  ⟨source, .starting, world, [], false, false⟩

/-- Closes the stream: the producer stops as soon as it notices. -/
def close (s : Stream σ) : Stream σ := { s with closed := true, ended := true }

/-- Closes the stream and forgets the items in the queue. -/
def drop (s : Stream σ) : Stream σ := { s.close with queue := [] }

/-- Lets time pass while an answer is awaited. -/
def pass (s : Stream σ) (t : Duration) : Stream σ :=
  match s.phase with
  | .awaiting left evaluation => { s with phase := .awaiting (left.minus t) evaluation }
  | _ => s

/-- Takes the next item out of the queue, gives nothing at the end of the stream, and has no outcome
while the producer is at work on the next item. An error closes the stream. -/
def take (s : Stream σ) : Option (Option Item × Stream σ) :=
  if s.ended then some (none, s)
  else match s.queue with
    | .ok row :: rest => some (some (.ok row), { s with queue := rest })
    | .error e :: rest => some (some (.error e), { s with queue := rest }.close)
    | [] => match s.phase with
      | .finished => some (none, { s with ended := true })
      | _ => none

end Stream

end ServiceClause
