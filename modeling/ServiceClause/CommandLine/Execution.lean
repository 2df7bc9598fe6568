import ServiceClause.CommandLine.Files
import ServiceClause.CommandLine.Invocation
import ServiceClause.Config.Document
import ServiceClause.Http.Client
import ServiceClause.Query.Pattern
import ServiceClause.Registry.Acquisition
import ServiceClause.Stream.Consumer
import ServiceClause.Text.Quoted

/-!
# Executing a query command

First everything that the command says is understood: its configuration, its input rows and its
prefixes. Only then is a client acquired, and the pattern evaluated. All rows are collected before
any of them is shown, so that there is a whole report or none.

## Main definitions

* `ServiceClause.CommandLine.SetupError` — why a command cannot be executed.
* `ServiceClause.CommandLine.Task` — what a command comes down to.
* `ServiceClause.CommandLine.QueryCommand.task` — understanding a command.
* `ServiceClause.CommandLine.Task.evaluate` — the rows of a task.
* `ServiceClause.CommandLine.QueryCommand.execute` — the rows of a command.
* `ServiceClause.CommandLine.QueryCommand.display` — what is shown of them.
-/

set_option autoImplicit false

namespace ServiceClause.CommandLine

/-- Why a command cannot be executed. -/
inductive SetupError where
  /-- The file with the configuration cannot be read. -/
  | unreadableConfig (path : String) (cause : Unreadable)
  /-- The file with the input rows cannot be read. -/
  | unreadableRows (path : String) (cause : Unreadable)
  /-- A prefix is not declared with a namespace. -/
  | malformedPrefix (declaration : String)
  /-- The configuration or the input rows are not acceptable. -/
  | rejected (cause : FederationError)
deriving DecidableEq, Repr

/-- The text shown to people. -/
def SetupError.message : SetupError → String
  | unreadableConfig path cause =>
    "Could not read config " ++ quoted path ++ ": " ++ cause.message
  | unreadableRows path cause =>
    "Could not read input rows " ++ quoted path ++ ": " ++ cause.message
  | malformedPrefix declaration =>
    "Invalid prefix '" ++ declaration ++ "', expected prefix=namespace"
  | rejected cause => cause.message

/-- What a command comes down to. -/
structure Task where
  /-- How the clause is evaluated. -/
  config : Config
  /-- The clause. -/
  clause : Descriptor
  /-- The rows that it is evaluated for. -/
  input : List Row

/-! ## Understanding a command -/

namespace QueryCommand

/-- The configuration with the settings that the command makes itself. -/
def adjust (q : QueryCommand) (c : Config) : Config :=
  { c with
    rowsPerBatch := q.blockSize?.getD c.rowsPerBatch
    batchTimeout := (q.timeout?.map Duration.ofSeconds).getD c.batchTimeout }

/-- The configuration that the command builds on. -/
def baseConfig (q : QueryCommand) (files : Files) : Except SetupError Config :=
  match q.config? with
  | none => .ok {}
  | some path =>
    match files path with
    | .error cause => .error (.unreadableConfig path cause)
    | .ok text => (Config.read (symbolsOf text)).mapError .rejected

/-- The configuration of the command. -/
def configuration (q : QueryCommand) (files : Files) : Except SetupError Config := do
  let config := q.adjust (← q.baseConfig files)
  config.validate.mapError .rejected
  return config

/-- The input rows: those of the file, or those given with the command, or a single empty row. -/
def inputRows (q : QueryCommand) (files : Files) : Except SetupError (List Row) :=
  match q.input?, q.rows? with
  | some path, _ =>
    match files path with
    | .error cause => .error (.unreadableRows path cause)
    | .ok text => (readRows (symbolsOf text)).mapError .rejected
  | none, some text => (readRows (symbolsOf text)).mapError .rejected
  | none, none => .ok [.empty]

/-- The prefix and the namespace of a declaration. -/
def readPrefix (declaration : String) : Except SetupError (String × String) :=
  match splitFirst? '=' declaration.toList with
  | none => .error (.malformedPrefix declaration)
  | some (name, namespaceIri) =>
    .ok (trim (String.ofList name), trim (String.ofList namespaceIri))

/-- The pattern with its prefixes. -/
def patternQuery (q : QueryCommand) : Except SetupError PatternQuery :=
  (q.prefixes.mapM readPrefix).map fun declarations => ⟨declarations, q.pattern⟩

/-- The name of a variable that may be given with its mark. -/
def variableName (s : String) : Name :=
  String.ofList (s.toList.dropWhile fun c => c == '?' || c == '$')

/-- The variables of the clause. -/
def variableSet (q : QueryCommand) : NameSet :=
  .ofList ((q.names.map variableName).filter (· ≠ ""))

/-- The clause of the command, given its pattern. -/
def clause (q : QueryCommand) (pattern : PatternQuery) : Descriptor where
  endpoint := q.endpoint
  declared := q.variableSet
  silent := q.silent
  base? := q.base?
  render := pattern.render

/-- What the command comes down to. -/
def task (q : QueryCommand) (files : Files) : Except SetupError Task := do
  let config ← q.configuration files
  let input ← q.inputRows files
  let pattern ← q.patternQuery
  return ⟨config, q.clause pattern, input⟩

end QueryCommand

/-! ## Evaluating a task -/

namespace Task

variable {τ : Type}

/-- All rows of the clause, evaluated with a given client, and the client after that. -/
def collect (t : Task) (transport : Http.Transport τ) (client : Http.Client τ) :
    Outcome (List Row) × Http.Client τ :=
  let dispatch : Dispatch (Http.Client τ) := ⟨t.config, t.clause, Http.Client.service transport⟩
  let (rows, stream) :=
    dispatch.collectAll (.start (.ofItems (t.input.map .ok)) client)
  (rows, stream.world)

/-- All rows of the clause, and the state of the transport after that. The client is acquired from a
registry of its own, in which no client is left. -/
def evaluate (t : Task) (transport : Http.Transport τ) (carrier : τ) :
    Outcome (List Row) × τ :=
  let lifecycle := Http.Client.lifecycle transport
  let registry := Registry.empty (Http.Client.factory t.config.client carrier)
  let (acquired, registry) := registry.acquire lifecycle t.clause.endpoint
  let (rows, registry) : Outcome (List Row) × Registry (Http.Client τ) := match acquired with
    | .error e => (.error e, registry)
    | .ok id => registry.lend id (t.collect transport)
  (rows, ((registry.unregisterAll lifecycle).clients.getLast?.map (·.client.carrier)).getD carrier)

end Task

/-! ## Showing the outcome -/

/-- Why a command has no rows. -/
inductive QueryFailure where
  /-- It could not be executed. -/
  | setup (cause : SetupError)
  /-- Its clause failed. -/
  | evaluation (cause : FederationError)
deriving DecidableEq, Repr

/-- The text shown to people. -/
def QueryFailure.message : QueryFailure → String
  | setup cause => cause.message
  | evaluation cause => cause.message

/-- What a command shows. -/
structure Display where
  /-- What is printed. -/
  output : String := ""
  /-- What is printed as errors. -/
  errors : String := ""
  /-- Why the command failed, if it did. -/
  failure? : Option QueryFailure := none
deriving DecidableEq, Repr

namespace QueryCommand

variable {τ : Type}

/-- The rows of the command, and the state of the transport after that. -/
def execute (q : QueryCommand) (files : Files) (transport : Http.Transport τ) (carrier : τ) :
    Except QueryFailure (List Row) × τ :=
  match q.task files with
  | .error cause => (.error (.setup cause), carrier)
  | .ok task =>
    let (rows, carrier) := task.evaluate transport carrier
    (rows.mapError .evaluation, carrier)

/-- What the command shows of its rows. A clause that failed is reported as an error. -/
def display (q : QueryCommand) (elapsed : Duration) : Except QueryFailure (List Row) → Display
  | .ok rows => { output := (Report.mk q.endpoint rows elapsed).text q.format ++ "\n" }
  | .error (.setup cause) => { failure? := some (.setup cause) }
  | .error (.evaluation cause) =>
    { errors := "Error: " ++ cause.message ++ "\n", failure? := some (.evaluation cause) }

end QueryCommand

end ServiceClause.CommandLine
