import ServiceClause.Error
import ServiceClause.NameSet
import ServiceClause.Text.Word

/-!
# Configuration

How clauses are evaluated and how endpoints are talked to, with three ready-made choices.

## Main definitions

* `ServiceClause.ClientConfig` — settings of the client of an endpoint.
* `ServiceClause.Config` — settings of an evaluation.
* `ServiceClause.Config.validate` — the first setting that is not acceptable.
* `ServiceClause.Config.blockSize` — how many rows are evaluated together.
-/

set_option autoImplicit false

namespace ServiceClause

/-- The version of this library. -/
def version : String := "0.0.1"

/-- Settings of the client of an endpoint. -/
structure ClientConfig where
  /-- The time that a request may take, unless the caller sets a shorter one. -/
  requestTimeout : Option Duration := some (.ofSeconds 120)
  /-- The time that connecting may take. -/
  connectTimeout : Duration := .ofSeconds 10
  /-- The name under which requests are sent. -/
  userAgent : String := "fedsparql/" ++ version
  /-- Whether a test query is sent before the first use. -/
  probe : Bool := false
  /-- Headers that are sent with every request. -/
  headers : List (String × String) := []
deriving DecidableEq, Repr

instance : Inhabited ClientConfig := ⟨{}⟩

/-- Settings of an evaluation. -/
structure Config where
  /-- The number of rows that are evaluated together; one if it is not positive. -/
  rowsPerBatch : Int := 15
  /-- The time that the evaluation of several rows together may take. -/
  batchTimeout : Duration := .ofSeconds 60
  /-- The number of rows that may wait for the consumer. -/
  queueCapacity : Nat := 64
  /-- The variable that carries the position of a row in its batch. -/
  rowIndex : Name := "__rowIdx"
  /-- Settings of the clients. -/
  client : ClientConfig := {}
deriving DecidableEq, Repr

namespace Config

instance : Inhabited Config := ⟨{}⟩

/-- Every row is evaluated by itself. -/
def unbatched : Config := { rowsPerBatch := 0 }

/-- Small batches and little patience, for interactive use. -/
def lowLatency : Config :=
  { rowsPerBatch := 5
    batchTimeout := .ofSeconds 10
    queueCapacity := 16
    client := { requestTimeout := some (.ofSeconds 15), connectTimeout := .ofSeconds 3 } }

/-- The number of rows that are really evaluated together. -/
def blockSize (c : Config) : Nat := if c.rowsPerBatch ≤ 0 then 1 else c.rowsPerBatch.toNat

theorem blockSize_pos (c : Config) : 0 < c.blockSize := by
  unfold blockSize
  split <;> omega

/-- Whether a text may name the row index. -/
def isName (s : String) : Bool :=
  s ≠ "" ∧ s.toList.all fun c => isAlphanumeric c || c == '_'

/-- The first setting that is not acceptable. -/
def validate (c : Config) : Except FederationError Unit :=
  if c.queueCapacity = 0 then .error (.invalidConfig "queue_capacity must be > 0")
  else if c.batchTimeout = .zero then
    .error (.invalidConfig "batch_query_timeout must be non-zero")
  else if !isName c.rowIndex then
    .error (.invalidConfig
      ("row_index_variable '" ++ c.rowIndex ++ "' is not a valid variable name"))
  else if c.client.userAgent = "" then
    .error (.invalidConfig "client.user_agent must not be empty")
  else .ok ()

end Config

end ServiceClause
