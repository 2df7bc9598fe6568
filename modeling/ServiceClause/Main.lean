import ServiceClause.CommandLine.Execution

/-!
# The program

Reads the arguments, executes the command and prints what it shows. The program has no network of
its own: every endpoint is unreachable to it.
-/

set_option autoImplicit false

namespace ServiceClause.CommandLine

/-- How the program is used. -/
def usage : String :=
  "Federated SPARQL SERVICE evaluation\n\n" ++
  "Usage: fedsparql [-v] [--log-level LEVEL] COMMAND\n\n" ++
  "Commands:\n" ++
  "  query    Evaluate a SERVICE pattern against a remote endpoint\n" ++
  "  version  Show version information\n" ++
  "  help     Print this message\n\n" ++
  "Parameters of query:\n" ++
  "  -e, --endpoint URL     SPARQL endpoint\n" ++
  "  -p, --pattern TEXT     Group graph pattern without braces\n" ++
  "      --var NAMES        Variables that the pattern declares, separated by commas\n" ++
  "      --prefix P=NS      Prefix declaration, repeatable\n" ++
  "  -i, --input FILE       JSON file holding the input rows\n" ++
  "      --rows JSON        Input rows\n" ++
  "      --base-uri URI     Base URI for relative IRIs in the pattern\n" ++
  "      --silent           Keep input rows instead of failing when the endpoint fails\n" ++
  "      --block-size N     Rows per remote round trip (0 disables batching)\n" ++
  "      --timeout SECS     Batch execution budget\n" ++
  "  -c, --config FILE      Configuration file\n" ++
  "  -f, --format FORMAT    table, json or csv\n"

/-- The text of a usage error. -/
def UsageError.message : UsageError → String
  | helpWanted | nothingGiven => usage
  | versionWanted => "fedsparql " ++ version ++ "\n"
  | missingCommand => "error: a command is required\n"
  | unknownCommand => "error: unrecognized command\n"
  | unknownArgument => "error: unexpected argument\n"
  | missingParameter => "error: --endpoint, --pattern and --var are required\n"
  | impossibleValue => "error: a value is required and has to be one of the possible ones\n"
  | unreadableValue => "error: invalid value\n"
  | unneededValue => "error: a flag takes no value\n"
  | conflict => "error: an argument cannot be used with another one, or more than once\n"

/-- Whether the text of a usage error is what was asked for. -/
def UsageError.isWish : UsageError → Bool
  | helpWanted | versionWanted => true
  | _ => false

/-- What a file holds, or why it cannot be read. -/
def readFile (path : String) : IO (Except Unreadable String) := do
  if path.contains '\x00' then return .error .brokenName
  try
    match String.fromUTF8? (← IO.FS.readBinFile path) with
    | some text => return .ok text
    | none => return .error .notText
  catch e =>
    return .error <| match e with
      | .noFileOrDirectory .. => .missing
      | .inappropriateType _ 21 _ => .directory
      | .inappropriateType .. => .notDirectory
      | .invalidArgument .. => .nameTooLong
      | .permissionDenied .. => .forbidden
      | e => .other (toString e)

/-- The files that a command reads. -/
def QueryCommand.readFiles (q : QueryCommand) : IO Files := do
  let found ← (q.config?.toList ++ q.input?.toList).mapM fun path =>
    return (path, ← readFile path)
  return fun path => (found.lookup path).getD (.error .missing)

/-- Executes a query command. -/
def QueryCommand.run (q : QueryCommand) : IO UInt32 := do
  let files ← q.readFiles
  let started ← IO.monoNanosNow
  let (rows, ()) := q.execute files .refusing ()
  let shown := q.display ⟨(← IO.monoNanosNow) - started⟩ rows
  IO.print shown.output
  IO.eprint shown.errors
  return if shown.failure?.isSome then 1 else 0

end ServiceClause.CommandLine

open ServiceClause ServiceClause.CommandLine in
/-- The program. -/
def main (arguments : List String) : IO UInt32 := do
  match Invocation.ofArguments arguments with
  | .error e =>
    if e.isWish then
      IO.print e.message
      return 0
    else
      IO.eprint e.message
      return 2
  | .ok invocation =>
    match invocation.command with
    | .version =>
      IO.println ("FedSPARQL " ++ version)
      IO.println "Federated SPARQL SERVICE execution"
      return 0
    | .query q => q.run
