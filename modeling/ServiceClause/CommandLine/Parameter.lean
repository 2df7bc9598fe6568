import ServiceClause.Report.Format
import ServiceClause.Text.Decimal
import ServiceClause.Text.Split

/-!
# Parameters

What may be given on the command line behind hyphens. A parameter has a long name, and some have a
letter as well. It takes a value or is a mere flag, and only few may be given more than once.

## Main definitions

* `ServiceClause.CommandLine.UsageError` — why arguments are not understood.
* `ServiceClause.CommandLine.LogLevel` — how much is logged.
* `ServiceClause.CommandLine.Parameter` — the parameters, with their names and their kinds.
* `ServiceClause.CommandLine.Parameter.check` — whether a parameter may have a value.
-/

set_option autoImplicit false

namespace ServiceClause.CommandLine

/-- Why arguments do not say what to do. -/
inductive UsageError where
  /-- Help is asked for. -/
  | helpWanted
  /-- The version is asked for. -/
  | versionWanted
  /-- Nothing is asked for. -/
  | nothingGiven
  /-- There are parameters, but no command. -/
  | missingCommand
  /-- There is no such command. -/
  | unknownCommand
  /-- There is no such parameter, or an argument stands where none can. -/
  | unknownArgument
  /-- A parameter that is needed has not been given. -/
  | missingParameter
  /-- A parameter has no value, an empty one that says nothing, or none of its possible ones. -/
  | impossibleValue
  /-- A value cannot be read. -/
  | unreadableValue
  /-- A flag has a value. -/
  | unneededValue
  /-- A parameter has been given twice, or two that exclude each other have been given. -/
  | conflict
deriving DecidableEq, Repr

/-- How much is logged. -/
inductive LogLevel where
  /-- Only errors. -/
  | error
  /-- Warnings too. -/
  | warn
  /-- What is going on too. -/
  | info
  /-- What helps to find faults too. -/
  | debug
  /-- Everything. -/
  | trace
deriving DecidableEq, Repr

namespace LogLevel

/-- The name of a level. -/
def name : LogLevel → String
  | error => "ERROR"
  | warn => "WARN"
  | info => "INFO"
  | debug => "DEBUG"
  | trace => "TRACE"

/-- The level of a name, in large or small letters. -/
def ofName? (s : String) : Option LogLevel :=
  [error, warn, info, debug, trace].find? (·.name = s.toUpper)

end LogLevel

/-- What may be given behind hyphens. -/
inductive Parameter where
  /-- Help. -/
  | help
  /-- The version. -/
  | version
  /-- Whether more is logged. -/
  | verbose
  /-- How much is logged. -/
  | logLevel
  /-- The endpoint. -/
  | endpoint
  /-- The pattern. -/
  | pattern
  /-- Variables of the pattern. -/
  | names
  /-- A prefix of the pattern with its namespace. -/
  | prefixes
  /-- The file with the input rows. -/
  | input
  /-- The input rows. -/
  | rows
  /-- The base of relative IRIs. -/
  | baseUri
  /-- Whether failures are hidden. -/
  | silent
  /-- The number of rows that are evaluated together. -/
  | blockSize
  /-- The seconds that evaluating them together may take. -/
  | timeout
  /-- The file with the configuration. -/
  | config
  /-- The format of the report. -/
  | format
deriving DecidableEq, Repr

namespace Parameter

/-- The name behind two hyphens. -/
def long : Parameter → String
  | help => "help"
  | version => "version"
  | verbose => "verbose"
  | logLevel => "log-level"
  | endpoint => "endpoint"
  | pattern => "pattern"
  | names => "var"
  | prefixes => "prefix"
  | input => "input"
  | rows => "rows"
  | baseUri => "base-uri"
  | silent => "silent"
  | blockSize => "block-size"
  | timeout => "timeout"
  | config => "config"
  | format => "format"

/-- The letter behind one hyphen. -/
def short? : Parameter → Option Char
  | help => some 'h'
  | version => some 'V'
  | verbose => some 'v'
  | endpoint => some 'e'
  | pattern => some 'p'
  | input => some 'i'
  | config => some 'c'
  | format => some 'f'
  | _ => none

/-- Whether the parameter has no value. -/
def isFlag : Parameter → Bool
  | help | version | verbose | silent => true
  | _ => false

/-- Whether the parameter may be given more than once. -/
def isRepeatable : Parameter → Bool
  | names | prefixes => true
  | _ => false

/-- Whether the parameter may have a value. Paths are not empty, and numbers have to fit into 32
bits with a sign or 64 bits without one. -/
def check (p : Parameter) (value : String) : Except UsageError Unit :=
  match p with
  | logLevel => if (LogLevel.ofName? value).isSome then .ok () else .error .unreadableValue
  | input | config => if value = "" then .error .impossibleValue else .ok ()
  | format => if (Format.ofName? value).isSome then .ok () else .error .impossibleValue
  | blockSize =>
    if (integer? value.toList).any fun n => decide (-2147483648 ≤ n ∧ n ≤ 2147483647) then .ok ()
    else .error .unreadableValue
  | timeout =>
    if (natural? value.toList).any fun n => decide (n < Nat.pow 2 64) then .ok ()
    else .error .unreadableValue
  | _ => .ok ()

end Parameter

end ServiceClause.CommandLine
