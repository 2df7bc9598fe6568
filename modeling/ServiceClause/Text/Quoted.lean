import ServiceClause.Text.Extender
import ServiceClause.Text.Glyph

/-!
# Quoted text

In messages a text may stand between quotes, with everything in it made visible.

## Main definitions

* `ServiceClause.quoted` — a text between quotes.
-/

set_option autoImplicit false

namespace ServiceClause

/-- The characters that stand for `c` between quotes. What has no glyph, and what would merge with
the character before it, is written as its code point. -/
def quotedChar (c : Char) : List Char :=
  if c = '\n' then ['\\', 'n']
  else if c = '\r' then ['\\', 'r']
  else if c = '\t' then ['\\', 't']
  else if c.toNat = 0 then ['\\', '0']
  else if c = '\\' || c = '"' then ['\\', c]
  else if isExtender c || !hasGlyph c then
    "\\u\x7b".toList ++ Nat.toDigits 16 c.toNat ++ ['\x7d']
  else [c]

/-- The text between quotes. -/
def quoted (s : String) : String :=
  "\"" ++ String.ofList (s.toList.flatMap quotedChar) ++ "\""

end ServiceClause
