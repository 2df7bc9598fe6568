import ServiceClause.CommandLine.Reading

/-!
# Invocations

An invocation is what the arguments of the program say: what to do, and how much to log meanwhile.

## Main definitions

* `ServiceClause.CommandLine.QueryCommand` — a pattern to be evaluated, and how.
* `ServiceClause.CommandLine.Command` — what may be done.
* `ServiceClause.CommandLine.Invocation` — a command and the parameters that all commands have.
* `ServiceClause.CommandLine.Invocation.ofArguments` — what arguments say.
-/

set_option autoImplicit false

namespace ServiceClause.CommandLine

/-- A pattern to be evaluated. -/
structure QueryCommand where
  /-- The endpoint. -/
  endpoint : String
  /-- The pattern without its braces. -/
  pattern : String
  /-- The variables of the pattern as they were given. -/
  names : List String
  /-- The declarations of prefixes as they were given. -/
  prefixes : List String := []
  /-- The file with the input rows. -/
  input? : Option String := none
  /-- The input rows. -/
  rows? : Option String := none
  /-- The base of relative IRIs. -/
  base? : Option String := none
  /-- Whether failures of the endpoint are hidden. -/
  silent : Bool := false
  /-- The number of rows that are evaluated together. -/
  blockSize? : Option Int := none
  /-- The seconds that evaluating them together may take. -/
  timeout? : Option Nat := none
  /-- The file with the configuration. -/
  config? : Option String := none
  /-- The format of the report. -/
  format : Format := .table
deriving DecidableEq, Repr

/-- What may be done. -/
inductive Command where
  /-- Evaluates a pattern. -/
  | query (query : QueryCommand)
  /-- Tells the version. -/
  | version
deriving DecidableEq, Repr

/-- A command and the parameters that all commands have. -/
structure Invocation where
  /-- Whether more is logged. -/
  verbose : Bool
  /-- How much is logged. -/
  logLevel? : Option LogLevel
  /-- What is done. -/
  command : Command
deriving DecidableEq, Repr

/-- The pattern to be evaluated. An endpoint, a pattern and variables have to be given, and the
input rows only in one way. -/
def QueryCommand.ofReading (r : Reading) : Except UsageError QueryCommand :=
  if r.has .input && r.has .rows then .error .conflict
  else match r.value? .endpoint, r.value? .pattern, r.values .names with
    | some endpoint, some pattern, v :: vs => .ok {
        endpoint
        pattern
        names := (v :: vs).flatMap fun s => (partsBetween ',' s.toList).map String.ofList
        prefixes := r.values .prefixes
        input? := r.value? .input
        rows? := r.value? .rows
        base? := r.value? .baseUri
        silent := r.has .silent
        blockSize? := (r.value? .blockSize).bind fun s => integer? s.toList
        timeout? := (r.value? .timeout).bind fun s => natural? s.toList
        config? := r.value? .config
        format := ((r.value? .format).bind Format.ofName?).getD .table }
    | _, _, _ => .error .missingParameter

/-- What becomes of a wish for help with a command. -/
def helpWith : List String → UsageError
  | [] => .helpWanted
  | [a] => if (CommandName.ofName? a).isSome then .helpWanted else .unknownCommand
  | _ => .unknownCommand

namespace Invocation

/-- The invocation of a command, from what was read before and behind its name. What stands behind
the name counts more. -/
def ofReadings (top inner : Reading) (command : Command) : Invocation where
  verbose := top.has .verbose || inner.has .verbose
  logLevel? := ((inner.value? .logLevel).or (top.value? .logLevel)).bind LogLevel.ofName?
  command := command

/-- What arguments say. -/
def ofArguments (arguments : List String) : Except UsageError Invocation := do
  match ← scan .top {} arguments with
  | (top, none) =>
    let top ← top.settle
    throw (if top.given.isEmpty then .nothingGiven else .missingCommand)
  | (_, some (.help, rest)) => throw (helpWith rest)
  | (top, some (.version, rest)) =>
    let inner ← (← scan (.within .version) {} rest).1.settle
    return ofReadings (← top.settle) inner .version
  | (top, some (.query, rest)) =>
    let inner ← (← scan (.within .query) {} rest).1.settle
    let query ← QueryCommand.ofReading inner
    return ofReadings (← top.settle) inner (.query query)

end Invocation

end ServiceClause.CommandLine
