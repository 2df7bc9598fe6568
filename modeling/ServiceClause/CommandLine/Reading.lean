import ServiceClause.CommandLine.Parameter

/-!
# Reading arguments

Arguments are read from left to right, at the top until a command is named, and then as those of the
command. The value of a parameter may stand in the same argument or be the next one; in the latter
case it is looked at only when the next parameter or the end is reached, so that a fault further to
the right may be noticed first.

## Main definitions

* `ServiceClause.CommandLine.CommandName`, `Scope` — the commands, and where parameters may stand.
* `ServiceClause.CommandLine.Reading` — what has been read.
* `ServiceClause.CommandLine.Reading.readArgument` — what one more argument adds to it.
* `ServiceClause.CommandLine.scan` — what a list of arguments says.
-/

set_option autoImplicit false

namespace ServiceClause.CommandLine

/-- The names of the commands. -/
inductive CommandName where
  /-- Evaluates a pattern. -/
  | query
  /-- Tells the version. -/
  | version
  /-- Tells how commands are used. -/
  | help
deriving DecidableEq, Repr

/-- The command of a name. -/
def CommandName.ofName? : String → Option CommandName
  | "query" => some query
  | "version" => some version
  | "help" => some help
  | _ => none

/-- Where arguments stand. -/
inductive Scope where
  /-- Before the command. -/
  | top
  /-- Behind a command. -/
  | within (command : CommandName)
deriving DecidableEq, Repr

namespace Scope

/-- The parameters that may stand here. -/
def parameters : Scope → List Parameter
  | top => [.help, .version, .verbose, .logLevel]
  | within .query =>
    [.help, .verbose, .logLevel, .endpoint, .pattern, .names, .prefixes, .input, .rows,
      .baseUri, .silent, .blockSize, .timeout, .config, .format]
  | within _ => [.help, .verbose, .logLevel]

/-- The parameter with a long name. -/
def ofLong? (s : Scope) (name : List Char) : Option Parameter :=
  s.parameters.find? (·.long.toList = name)

/-- The parameter with a letter. -/
def ofShort? (s : Scope) (letter : Char) : Option Parameter :=
  s.parameters.find? (·.short? = some letter)

/-- The command that an argument names. -/
def command? : Scope → String → Option CommandName
  | top, a => CommandName.ofName? a
  | within _, _ => none

/-- What is wrong with an argument that is neither a parameter nor a value. -/
def stray : Scope → UsageError
  | top => .unknownCommand
  | within _ => .unknownArgument

/-- What is wrong with an argument behind two hyphens by themselves. -/
def strayBehindHyphens (s : Scope) (a : String) : UsageError :=
  if (s.command? a).isSome then .unknownArgument else s.stray

end Scope

/-- The parameter that is being read. -/
inductive Pending where
  /-- There is none. -/
  | nothing
  /-- Its value is to be the next argument. -/
  | awaiting (p : Parameter)
  /-- Its value has been found, but not looked at. -/
  | unchecked (p : Parameter) (value : String)
deriving DecidableEq, Repr

/-- What has been read of the arguments. -/
structure Reading where
  /-- The parameters with their values, in their order; a flag has the empty text. -/
  given : List (Parameter × String) := []
  /-- The parameter that is being read. -/
  pending : Pending := .nothing

namespace Reading

/-- Whether a parameter has been given. -/
def has (r : Reading) (p : Parameter) : Bool := r.given.any (·.1 = p)

/-- The values of a parameter. -/
def values (r : Reading) (p : Parameter) : List String :=
  (r.given.filter (·.1 = p)).map Prod.snd

/-- The value of a parameter that is not repeated. -/
def value? (r : Reading) (p : Parameter) : Option String := (r.values p).head?

/-- Whether the next argument has to be a value. -/
def isAwaiting (r : Reading) : Bool :=
  match r.pending with
  | .awaiting _ => true
  | _ => false

/-- Takes a parameter with its value. -/
def give (r : Reading) (p : Parameter) (value : String) : Except UsageError Reading := do
  if r.has p && !p.isRepeatable then throw .conflict
  p.check value
  return { r with given := r.given ++ [(p, value)] }

/-- Ends the parameter that is being read. -/
def settle (r : Reading) : Except UsageError Reading :=
  match r.pending with
  | .nothing => .ok r
  | .awaiting _ => .error .impossibleValue
  | .unchecked p value => { r with pending := .nothing }.give p value

/-- Takes a flag. -/
def raise (r : Reading) (p : Parameter) : Except UsageError Reading := do
  let r ← r.settle
  match p with
  | .help => throw .helpWanted
  | .version => throw .versionWanted
  | _ => r.give p ""

/-- Takes a parameter whose value may stand in the same argument. -/
def begin (r : Reading) (p : Parameter) (value? : Option String) : Except UsageError Reading := do
  let r ← r.settle
  match value? with
  | some value => r.give p value
  | none => return { r with pending := .awaiting p }

/-- Reads what stands behind two hyphens. -/
def readLong (r : Reading) (s : Scope) (cs : List Char) : Except UsageError Reading :=
  let (name, value?) := match splitFirst? '=' cs with
    | some (name, value) => (name, some (String.ofList value))
    | none => (cs, none)
  match s.ofLong? name with
  | none => .error .unknownArgument
  | some p =>
    if p.isFlag then
      if value?.isSome then .error .unneededValue else r.raise p
    else r.begin p value?

/-- Reads the letters behind one hyphen. The first one that is no flag has the rest as its value,
from which an equals sign is taken away. -/
def readShort (s : Scope) (r : Reading) : List Char → Except UsageError Reading
  | [] => .ok r
  | c :: cs =>
    match s.ofShort? c with
    | none => .error .unknownArgument
    | some p =>
      if p.isFlag then do readShort s (← r.raise p) cs
      else match cs with
        | [] => r.begin p none
        | '=' :: value => r.begin p (some (String.ofList value))
        | value => r.begin p (some (String.ofList value))

/-- Reads an argument that neither names a command nor consists of two hyphens. A hyphen by itself
may be a value. -/
def readArgument (r : Reading) (s : Scope) (a : String) : Except UsageError Reading :=
  match a.toList with
  | '-' :: '-' :: cs => r.readLong s cs
  | '-' :: c :: cs => readShort s r (c :: cs)
  | _ =>
    match r.pending with
    | .awaiting p => .ok { r with pending := .unchecked p a }
    | _ => .error s.stray

end Reading

/-- What arguments say, up to the first one that names a command, which is given with the arguments
behind it. Nothing may stand behind two hyphens by themselves. -/
def scan (s : Scope) (r : Reading) :
    List String → Except UsageError (Reading × Option (CommandName × List String))
  | [] => .ok (r, none)
  | a :: rest =>
    match if r.isAwaiting then none else s.command? a with
    | some command => .ok (r, some (command, rest))
    | none =>
      if a = "--" then
        match rest with
        | [] => .ok (r, none)
        | b :: _ => .error (s.strayBehindHyphens b)
      else do scan s (← r.readArgument s a) rest

end ServiceClause.CommandLine
