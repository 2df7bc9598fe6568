import ServiceClause.Json.Basic

/-!
# Writing JSON documents

The layout for people: every element and every member on a line of its own, each level indented by
two spaces, and empty arrays and objects on one line.

## Main definitions

* `ServiceClause.Json.quote` — a text in quotation marks.
* `ServiceClause.Json.pretty` — a document.
-/

set_option autoImplicit false

namespace ServiceClause.Json

/-- The digit of a number below sixteen. -/
def hexDigit (n : Nat) : Char := (Nat.digitChar n)

/-- How a character is written inside quotation marks. -/
def quoteChar (c : Char) : List Char :=
  if c = '"' then ['\\', '"']
  else if c = '\\' then ['\\', '\\']
  else if c = '\x08' then ['\\', 'b']
  else if c = '\x0c' then ['\\', 'f']
  else if c = '\n' then ['\\', 'n']
  else if c = '\r' then ['\\', 'r']
  else if c = '\t' then ['\\', 't']
  else if c.toNat < 0x20 then
    ['\\', 'u', '0', '0', hexDigit (c.toNat / 16), hexDigit (c.toNat % 16)]
  else [c]

/-- A text in quotation marks. -/
def quote (s : String) : String :=
  "\"" ++ String.ofList (s.toList.flatMap quoteChar) ++ "\""

/-- A new line at a level. -/
def newLine (level : Nat) : String := String.ofList ('\n' :: List.replicate (2 * level) ' ')

mutual

/-- A value whose first line begins at a level. -/
def prettyAt (level : Nat) : Json → String
  | null => "null"
  | bool true => "true"
  | bool false => "false"
  | integer n => toString n
  | decimal written => written
  | str (some s) => quote s
  | str none => "null"
  | array [] => "[]"
  | array (v :: rest) =>
    "[" ++ newLine (level + 1) ++ prettyAt (level + 1) v ++ prettyElements (level + 1) rest ++
      newLine level ++ "]"
  | object [] => "\x7b\x7d"
  | object (m :: rest) =>
    "\x7b" ++ newLine (level + 1) ++ prettyMember (level + 1) m ++
      prettyMembers (level + 1) rest ++ newLine level ++ "\x7d"

/-- The elements after the first, each behind a comma. -/
def prettyElements (level : Nat) : List Json → String
  | [] => ""
  | v :: rest => "," ++ newLine level ++ prettyAt level v ++ prettyElements level rest

/-- A key and its value. -/
def prettyMember (level : Nat) : Option String × Json → String
  | (k, v) => quote (k.getD "") ++ ": " ++ prettyAt level v

/-- The members after the first, each behind a comma. -/
def prettyMembers (level : Nat) : List (Option String × Json) → String
  | [] => ""
  | m :: rest => "," ++ newLine level ++ prettyMember level m ++ prettyMembers level rest

end

/-- The document that denotes a value. -/
def pretty (v : Json) : String := prettyAt 0 v

end ServiceClause.Json
