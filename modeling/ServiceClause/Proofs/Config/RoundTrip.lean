import ServiceClause.Config.Document
import ServiceClause.Proofs.Json.Omission

/-!
# Configurations are read back

A configuration is stored with all of its settings, but some of them may then be left out of the
document, also among the settings of the client. What is read is the configuration with the defaults
in their places, unless that is not acceptable.

## Main definitions

* `ServiceClause.Config.InRange` — a configuration whose numbers can be stored.
* `ServiceClause.Config.partialJson` — a configuration with some settings left out.
* `ServiceClause.Config.withDefaults` — the configuration that this stands for.

## Main statements

* `ServiceClause.ClientConfig.ofJson?_omitting` — the settings of a client are read back.
* `ServiceClause.Config.ofJson?_partialJson` — the settings of an evaluation are read back.
* `ServiceClause.Config.read_partial` — what is read from a document with settings left out.
-/

set_option autoImplicit false

namespace ServiceClause

open Json

/-! ## Numbers -/

theorem Json.asIntegerIn?_integer {low high n : Int} (h : low ≤ n ∧ n ≤ high) :
    asIntegerIn? low high (.integer n) = some n :=
  if_pos h

theorem Json.asNat?_integer {bits n : Nat} (h : n < Nat.pow 2 bits) :
    asNat? bits (.integer n) = some n := by
  have hrange : (0 : Int) ≤ n ∧ (n : Int) ≤ Int.ofNat (Nat.pow 2 bits) - 1 := by
    rw [Int.ofNat_eq_natCast]
    omega
  rw [asNat?, asIntegerIn?_integer hrange]
  rfl

/-! ## Durations -/

namespace Duration

theorem subsecond_lt (d : Duration) : d.subsecond < Nat.pow 2 32 := by
  show d.nanoseconds % 1000000000 < 4294967296
  omega

/-- A duration is its whole seconds and the nanoseconds beyond them. -/
theorem eq_seconds_subsecond (d : Duration) : ⟨d.seconds * perSecond + d.subsecond⟩ = d := by
  obtain ⟨n⟩ := d
  rw [seconds, subsecond, mk.injEq]
  exact Nat.div_add_mod' n perSecond

/-- A duration is read back if its seconds can be stored. -/
theorem ofJson?_toJson {d : Duration} (h : d.seconds < Nat.pow 2 64) :
    ofJson? d.toJson = some d := by
  have hfields : shape.fields? d.toJson =
      some [some (.integer d.seconds), some (.integer d.subsecond)] := rfl
  have hseconds : required? (asNat? 64) (some (.integer d.seconds)) = some d.seconds :=
    asNat?_integer h
  have hsubsecond : required? (asNat? 32) (some (.integer d.subsecond)) = some d.subsecond :=
    asNat?_integer d.subsecond_lt
  rw [ofJson?]
  refine Option.bind_eq_some_iff.2 ⟨_, hfields, ?_⟩
  refine Option.bind_eq_some_iff.2 ⟨_, hseconds, ?_⟩
  refine Option.bind_eq_some_iff.2 ⟨_, hsubsecond, ?_⟩
  simp only [eq_seconds_subsecond]
  exact if_pos h

/-- A duration that may be missing is read back as well, because no duration is written as
nothing. -/
theorem asOption?_toJson {d? : Option Duration} (h : ∀ d ∈ d?, d.seconds < Nat.pow 2 64) :
    asOption? ofJson? ((d?.map toJson).getD .null) = some d? := by
  cases d? with
  | none => rfl
  | some d =>
    show (ofJson? d.toJson).map some = some (some d)
    rw [ofJson?_toJson (h d rfl), Option.map_some]

theorem textual_toJson (d : Duration) : d.toJson.Textual := by
  apply textual_members (l := [("secs", .integer d.seconds), ("nanos", .integer d.subsecond)])
  intro m hm
  simp only [List.mem_cons, List.not_mem_nil, or_false] at hm
  rcases hm with rfl | rfl
  · exact .integer _
  · exact .integer _

end Duration

/-- The default of a setting if it is left out, and else its value. -/
def settingOr {α : Type} (omitted : List String) (key : String) (default value : α) : α :=
  if key ∈ omitted then default else value

/-! ## Settings of a client -/

namespace ClientConfig

/-- Whether the times of a client can be stored: their seconds have 64 bits. -/
structure InRange (c : ClientConfig) : Prop where
  /-- A request may take that long. -/
  requestTimeout : ∀ d ∈ c.requestTimeout, d.seconds < Nat.pow 2 64
  /-- Connecting may take that long. -/
  connectTimeout : c.connectTimeout.seconds < Nat.pow 2 64

/-- The settings with their defaults in place of those that are left out. -/
def withDefaults (c : ClientConfig) (omitted : List String) : ClientConfig :=
  let d : ClientConfig := {}
  { requestTimeout := settingOr omitted "request_timeout" d.requestTimeout c.requestTimeout
    connectTimeout := settingOr omitted "connect_timeout" d.connectTimeout c.connectTimeout
    userAgent := settingOr omitted "user_agent" d.userAgent c.userAgent
    probe := settingOr omitted "probe_on_initialize" d.probe c.probe
    headers := settingOr omitted "default_headers" d.headers c.headers }

/-- The members of the record of the settings. -/
def memberList (c : ClientConfig) : List (String × Json) := [
  ("request_timeout", (c.requestTimeout.map Duration.toJson).getD .null),
  ("connect_timeout", c.connectTimeout.toJson),
  ("user_agent", .text c.userAgent),
  ("probe_on_initialize", .bool c.probe),
  ("default_headers", .array (c.headers.map headerJson))]

theorem toJson_eq_members (c : ClientConfig) : c.toJson = members c.memberList := rfl

theorem nodup_keys (c : ClientConfig) : (c.memberList.map Prod.fst).Nodup := by
  show shape.names.Nodup
  decide

theorem headerOfJson?_headerJson (header : String × String) :
    headerOfJson? (headerJson header) = some header := rfl

/-- The settings of a client are read back, with their defaults in place of those left out. -/
theorem ofJson?_omitting {c : ClientConfig} (hc : c.InRange) (omitted : List String) :
    ofJson? (c.toJson.omitting omitted) = some (c.withDefaults omitted) := by
  have hfields : shape.fields? (c.toJson.omitting omitted) =
      some (shape.names.map fun n => if n ∈ omitted then none else c.memberList.lookup n) := by
    rw [toJson_eq_members]
    exact fields?_omitting rfl c.nodup_keys
  have hheaders : asList? headerOfJson? (.array (c.headers.map headerJson)) = some c.headers :=
    asList?_array headerOfJson?_headerJson c.headers
  have huserAgent : asText? (text c.userAgent) = some c.userAgent := rfl
  have hprobe : asBool? (.bool c.probe) = some c.probe := rfl
  rw [ofJson?]
  refine Option.bind_eq_some_iff.2 ⟨_, hfields, ?_⟩
  refine Option.bind_eq_some_iff.2
    ⟨_, default?_omitted (Duration.asOption?_toJson hc.requestTimeout) _ "request_timeout", ?_⟩
  refine Option.bind_eq_some_iff.2
    ⟨_, default?_omitted (Duration.ofJson?_toJson hc.connectTimeout) _ "connect_timeout", ?_⟩
  refine Option.bind_eq_some_iff.2 ⟨_, default?_omitted huserAgent _ "user_agent", ?_⟩
  refine Option.bind_eq_some_iff.2 ⟨_, default?_omitted hprobe _ "probe_on_initialize", ?_⟩
  refine Option.bind_eq_some_iff.2 ⟨_, default?_omitted hheaders _ "default_headers", ?_⟩
  rfl

theorem textual_memberList (c : ClientConfig) : ∀ m ∈ c.memberList, m.2.Textual := by
  have hrequest : ((c.requestTimeout.map Duration.toJson).getD .null).Textual := by
    cases c.requestTimeout with
    | none => exact .null
    | some d => exact d.textual_toJson
  have hheaders : (Json.array (c.headers.map headerJson)).Textual := by
    refine .array fun v hv => ?_
    obtain ⟨header, -, rfl⟩ := List.mem_map.1 hv
    exact textual_strings _
  intro m hm
  simp only [memberList, List.mem_cons, List.not_mem_nil, or_false] at hm
  rcases hm with rfl | rfl | rfl | rfl | rfl
  · exact hrequest
  · exact c.connectTimeout.textual_toJson
  · exact .text _
  · exact .bool _
  · exact hheaders

end ClientConfig

/-! ## Settings of an evaluation -/

namespace Config

/-- Whether the numbers of a configuration can be stored: the rows of a batch have 32 bits with a
sign, and the others have 64 bits. -/
structure InRange (c : Config) : Prop where
  /-- So many rows are evaluated together. -/
  rowsPerBatch : -2147483648 ≤ c.rowsPerBatch ∧ c.rowsPerBatch ≤ 2147483647
  /-- Evaluating them may take that long. -/
  batchTimeout : c.batchTimeout.seconds < Nat.pow 2 64
  /-- So many rows may wait for the consumer. -/
  queueCapacity : c.queueCapacity < Nat.pow 2 64
  /-- The times of the client can be stored. -/
  client : c.client.InRange

/-- The record of a configuration without some settings, and without some settings of the client. -/
def partialJson (c : Config) (omitted omittedOfClient : List String) : Json :=
  (c.toJson.alter "client" (omitting omittedOfClient)).omitting omitted

/-- The configuration with the defaults in place of the settings that are left out. -/
def withDefaults (c : Config) (omitted omittedOfClient : List String) : Config :=
  let d : Config := {}
  { rowsPerBatch := settingOr omitted "block_size" d.rowsPerBatch c.rowsPerBatch
    batchTimeout := settingOr omitted "batch_query_timeout" d.batchTimeout c.batchTimeout
    queueCapacity := settingOr omitted "queue_capacity" d.queueCapacity c.queueCapacity
    rowIndex := settingOr omitted "row_index_variable" d.rowIndex c.rowIndex
    client := settingOr omitted "client" d.client (c.client.withDefaults omittedOfClient) }

/-- The members of the record of a configuration, given the record of its client. -/
def memberList (c : Config) (client : Json) : List (String × Json) := [
  ("block_size", .integer c.rowsPerBatch),
  ("batch_query_timeout", c.batchTimeout.toJson),
  ("queue_capacity", .integer c.queueCapacity),
  ("row_index_variable", .text c.rowIndex),
  ("client", client)]

theorem nodup_keys (c : Config) (client : Json) : ((c.memberList client).map Prod.fst).Nodup := by
  show shape.names.Nodup
  decide

theorem partialJson_eq_members (c : Config) (omitted omittedOfClient : List String) :
    c.partialJson omitted omittedOfClient =
      (members (c.memberList (c.client.toJson.omitting omittedOfClient))).omitting omitted := rfl

theorem partialJson_nil (c : Config) : c.partialJson [] [] = c.toJson := by
  rw [partialJson_eq_members, omitting_nil, ClientConfig.toJson_eq_members, omitting_nil]
  rfl

theorem withDefaults_nil (c : Config) : c.withDefaults [] [] = c := rfl

/-- A configuration is read back, with its defaults in place of the settings left out. -/
theorem ofJson?_partialJson {c : Config} (hc : c.InRange) (omitted omittedOfClient : List String) :
    ofJson? (c.partialJson omitted omittedOfClient) =
      some (c.withDefaults omitted omittedOfClient) := by
  have hfields : shape.fields? (c.partialJson omitted omittedOfClient) =
      some (shape.names.map fun n => if n ∈ omitted then none
        else (c.memberList (c.client.toJson.omitting omittedOfClient)).lookup n) := by
    rw [partialJson_eq_members]
    exact fields?_omitting rfl (c.nodup_keys _)
  have hrows : asIntegerIn? (-2147483648) 2147483647 (.integer c.rowsPerBatch) =
      some c.rowsPerBatch := asIntegerIn?_integer hc.rowsPerBatch
  have hcapacity : asNat? 64 (.integer c.queueCapacity) = some c.queueCapacity :=
    asNat?_integer hc.queueCapacity
  have hrowIndex : asText? (text c.rowIndex) = some c.rowIndex := rfl
  have hclient := ClientConfig.ofJson?_omitting hc.client omittedOfClient
  rw [ofJson?]
  refine Option.bind_eq_some_iff.2 ⟨_, hfields, ?_⟩
  refine Option.bind_eq_some_iff.2 ⟨_, default?_omitted hrows _ "block_size", ?_⟩
  refine Option.bind_eq_some_iff.2
    ⟨_, default?_omitted (Duration.ofJson?_toJson hc.batchTimeout) _ "batch_query_timeout", ?_⟩
  refine Option.bind_eq_some_iff.2 ⟨_, default?_omitted hcapacity _ "queue_capacity", ?_⟩
  refine Option.bind_eq_some_iff.2 ⟨_, default?_omitted hrowIndex _ "row_index_variable", ?_⟩
  refine Option.bind_eq_some_iff.2 ⟨_, default?_omitted hclient _ "client", ?_⟩
  rfl

/-- Whatever settings are left out, what is left can be written. -/
theorem textual_partialJson (c : Config) (omitted omittedOfClient : List String) :
    (c.partialJson omitted omittedOfClient).Textual := by
  rw [partialJson_eq_members]
  apply textual_omitting
  intro m hm
  simp only [memberList, List.mem_cons, List.not_mem_nil, or_false] at hm
  rcases hm with rfl | rfl | rfl | rfl | rfl
  · exact .integer _
  · exact c.batchTimeout.textual_toJson
  · exact .integer _
  · exact .text _
  · exact textual_omitting c.client.textual_memberList omittedOfClient

/-- A configuration that is not acceptable has an invalid setting. -/
theorem validate_cases (c : Config) :
    c.validate = .ok () ∨ ∃ text, c.validate = .error (.invalidConfig text) := by
  unfold validate
  split
  · exact .inr ⟨_, rfl⟩
  split
  · exact .inr ⟨_, rfl⟩
  split
  · exact .inr ⟨_, rfl⟩
  split
  · exact .inr ⟨_, rfl⟩
  · exact .inl rfl

/-- A document is read as the configuration that it stands for, if that is acceptable. -/
theorem read_of_json {c : Config} (hc : c.InRange) {omitted omittedOfClient : List String}
    {document : List Symbol}
    (h : Json.read document = some (c.partialJson omitted omittedOfClient)) :
    read document = (c.withDefaults omitted omittedOfClient).validate.map fun _ =>
      c.withDefaults omitted omittedOfClient := by
  rw [read, h]
  show decode _ = _
  rw [decode, ofJson?_partialJson hc]

/-! ## Main result -/

/-- **Configurations are read back, whatever is left out.** Let any settings be left out of the
record of a configuration, among them settings of its client. What remains is written and read as it
is. Whatever document denotes it is read as the configuration with the defaults in place of those
settings if that is acceptable, and else the error is the one that tells what is not acceptable
about it. So an acceptable configuration is read back as it was.

**Proof sketch.** The names of the settings are distinct, so the fields of what remains are the
members of the record that have not been left out (`Json.fields?_omitting`). Each field is read as
the setting that it was written for, or has its default (`Json.default?_omitted`). -/
theorem read_partial {c : Config} (hc : c.InRange) (omitted omittedOfClient : List String) :
    Json.read (symbolsOf (c.partialJson omitted omittedOfClient).pretty) =
      some (c.partialJson omitted omittedOfClient) ∧
    (∀ document, Json.read document = some (c.partialJson omitted omittedOfClient) →
      ((c.withDefaults omitted omittedOfClient).validate = .ok () →
        read document = .ok (c.withDefaults omitted omittedOfClient)) ∧
      ∀ e, (c.withDefaults omitted omittedOfClient).validate = .error e →
        read document = .error e ∧ ∃ text, e = .invalidConfig text) ∧
    (c.validate = .ok () →
      read (symbolsOf c.toJson.pretty) = .ok c ∧
      ∀ document, Json.read document = some c.toJson → read document = .ok c) := by
  have hwhole : ∀ document, Json.read document = some c.toJson → c.validate = .ok () →
      read document = .ok c := by
    intro document hdocument hvalid
    rw [← partialJson_nil] at hdocument
    rw [read_of_json hc hdocument, withDefaults_nil, hvalid]
    rfl
  refine ⟨Json.read_pretty (c.textual_partialJson omitted omittedOfClient),
    fun document hdocument => ⟨fun hvalid => ?_, fun e he => ⟨?_, ?_⟩⟩, fun hvalid => ⟨?_, ?_⟩⟩
  · rw [read_of_json hc hdocument, hvalid]
    rfl
  · rw [read_of_json hc hdocument, he]
    rfl
  · rcases validate_cases (c.withDefaults omitted omittedOfClient) with hvalid | ⟨text, htext⟩
    · rw [hvalid] at he
      cases he
    · rw [htext] at he
      exact ⟨text, (Except.error.inj he).symm⟩
  · apply hwhole _ _ hvalid
    rw [← partialJson_nil]
    exact Json.read_pretty (c.textual_partialJson [] [])
  · exact fun document hdocument => hwhole document hdocument hvalid

/-- A configuration with three settings that are not acceptable. -/
def spacedIndex : Config where
  rowsPerBatch := 4
  batchTimeout := ⟨1500000000⟩
  queueCapacity := 0
  rowIndex := "row idx"
  client := { requestTimeout := none, userAgent := "", headers := [("Accept", "text/plain")] }

/-- Without two of these settings, the third one is the error. Without it as well the configuration
is read, and a client without a limit for requests still has none. -/
theorem spacedIndex_read :
    spacedIndex.InRange ∧
    read (symbolsOf (spacedIndex.partialJson ["queue_capacity"] ["user_agent"]).pretty) =
      .error (.invalidConfig "row_index_variable 'row idx' is not a valid variable name") ∧
    read (symbolsOf (spacedIndex.partialJson ["queue_capacity", "row_index_variable"]
        ["user_agent", "connect_timeout"]).pretty) =
      .ok { rowsPerBatch := 4, batchTimeout := ⟨1500000000⟩,
            client := { requestTimeout := none, headers := [("Accept", "text/plain")] } } := by
  have hrange : spacedIndex.InRange := by
    constructor
    · decide
    · decide
    · decide
    · constructor
      · exact nofun
      · decide
  obtain ⟨hpretty, hread, -⟩ := read_partial hrange ["queue_capacity"] ["user_agent"]
  obtain ⟨hpretty', hread', -⟩ := read_partial hrange ["queue_capacity", "row_index_variable"]
    ["user_agent", "connect_timeout"]
  refine ⟨hrange, ?_, ?_⟩
  · exact ((hread _ hpretty).2 _ (by decide +kernel)).1
  · exact (hread' _ hpretty').1 (by decide +kernel)

end Config

end ServiceClause
