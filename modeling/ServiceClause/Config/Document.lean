import ServiceClause.Config
import ServiceClause.Json.Decode
import ServiceClause.Json.Reader

/-!
# Configuration documents

A configuration is stored as a JSON object. Any setting may be left out and then has its default.

## Main definitions

* `ServiceClause.Config.toJson`, `ServiceClause.Config.ofJson?` — writing and understanding.
* `ServiceClause.Config.read` — the configuration that a document holds, if it is acceptable.
-/

set_option autoImplicit false

namespace ServiceClause

open Json

namespace Duration

/-- The fields of a duration. -/
def shape : RecordShape := ⟨["secs", "nanos"], 2, false⟩

/-- The duration as a record. -/
def toJson (d : Duration) : Json :=
  .object [(some "secs", .integer d.seconds), (some "nanos", .integer d.subsecond)]

/-- The duration that a record denotes. The seconds have to fit into 64 bits, also after whole
seconds among the nanoseconds have been added to them. -/
def ofJson? (v : Json) : Option Duration := do
  match ← shape.fields? v with
  | [seconds, nanoseconds] =>
    let d : Duration :=
      ⟨(← required? (asNat? 64) seconds) * perSecond + (← required? (asNat? 32) nanoseconds)⟩
    if d.seconds < Nat.pow 2 64 then some d else none
  | _ => none

end Duration

namespace ClientConfig

/-- The fields of the settings of a client. -/
def shape : RecordShape :=
  ⟨["request_timeout", "connect_timeout", "user_agent", "probe_on_initialize", "default_headers"],
    0, true⟩

/-- A header as a pair. -/
def headerJson (header : String × String) : Json := .strings [header.1, header.2]

/-- The header that a pair denotes. -/
def headerOfJson? (v : Json) : Option (String × String) := do
  match ← asList? asText? v with
  | [name, value] => some (name, value)
  | _ => none

/-- The settings as a record. -/
def toJson (c : ClientConfig) : Json :=
  .object [
    (some "request_timeout", (c.requestTimeout.map Duration.toJson).getD .null),
    (some "connect_timeout", c.connectTimeout.toJson),
    (some "user_agent", .text c.userAgent),
    (some "probe_on_initialize", .bool c.probe),
    (some "default_headers", .array (c.headers.map headerJson))]

/-- The settings that a record denotes. -/
def ofJson? (v : Json) : Option ClientConfig := do
  let d : ClientConfig := {}
  match ← shape.fields? v with
  | [requestTimeout, connectTimeout, userAgent, probe, headers] =>
    return {
      requestTimeout := ← default? (asOption? Duration.ofJson?) d.requestTimeout requestTimeout
      connectTimeout := ← default? Duration.ofJson? d.connectTimeout connectTimeout
      userAgent := ← default? asText? d.userAgent userAgent
      probe := ← default? asBool? d.probe probe
      headers := ← default? (asList? headerOfJson?) d.headers headers }
  | _ => none

end ClientConfig

namespace Config

/-- The fields of a configuration. -/
def shape : RecordShape :=
  ⟨["block_size", "batch_query_timeout", "queue_capacity", "row_index_variable", "client"], 0, true⟩

/-- The configuration as a record. -/
def toJson (c : Config) : Json :=
  .object [
    (some "block_size", .integer c.rowsPerBatch),
    (some "batch_query_timeout", c.batchTimeout.toJson),
    (some "queue_capacity", .integer c.queueCapacity),
    (some "row_index_variable", .text c.rowIndex),
    (some "client", c.client.toJson)]

/-- The configuration that a record denotes. -/
def ofJson? (v : Json) : Option Config := do
  let d : Config := {}
  match ← shape.fields? v with
  | [rowsPerBatch, batchTimeout, queueCapacity, rowIndex, client] =>
    return {
      rowsPerBatch := ← default? (asIntegerIn? (-2147483648) 2147483647) d.rowsPerBatch rowsPerBatch
      batchTimeout := ← default? Duration.ofJson? d.batchTimeout batchTimeout
      queueCapacity := ← default? (asNat? 64) d.queueCapacity queueCapacity
      rowIndex := ← default? asText? d.rowIndex rowIndex
      client := ← default? ClientConfig.ofJson? d.client client }
  | _ => none

/-- The configuration that a value denotes, if it is acceptable. -/
def decode (v : Json) : Except FederationError Config :=
  match ofJson? v with
  | none => .error (.undecodableConfig "not a configuration")
  | some c => c.validate.map fun _ => c

/-- The configuration that a document holds, if it is acceptable. -/
def read (document : List Symbol) : Except FederationError Config :=
  match Json.read document with
  | none => .error (.undecodableConfig "not a JSON value")
  | some v => decode v

end Config

end ServiceClause
