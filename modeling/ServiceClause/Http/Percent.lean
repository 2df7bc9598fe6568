import ServiceClause.Text.Utf8

/-!
# Percent encoding

Characters that may not stand in some part of a URL, and all that are not ASCII, are written byte by
byte: a percent sign and two hexadecimal digits for each byte of their UTF-8 form.

## Main definitions

* `ServiceClause.Http.percentEncode` — a text with the characters outside a set encoded.
* `ServiceClause.Http.percentDecode` — the symbols that an encoded text stands for.
* `ServiceClause.Http.formEncode` — a text as the value of a form field.
-/

set_option autoImplicit false

namespace ServiceClause.Http

/-- The bytes of a character in UTF-8. -/
def utf8Bytes (c : Char) : List UInt8 := String.utf8EncodeChar c

/-- The hexadecimal digit of a number below sixteen. -/
def upperHexDigit (n : Nat) : Char := (Nat.digitChar n).toUpper

/-- A byte behind a percent sign. -/
def percentByte (b : UInt8) : List Char :=
  ['%', upperHexDigit (b.toNat / 16), upperHexDigit (b.toNat % 16)]

/-- Whether a character is an ASCII character that is not a control character. -/
def isPrintable (c : Char) : Bool := 0x20 ≤ c.toNat && c.toNat < 0x7f

/-- A text in which control characters, the characters of `reserved` and all characters that are not
ASCII are encoded. -/
def percentEncode (reserved : List Char) (cs : List Char) : List Char :=
  cs.flatMap fun c =>
    if isPrintable c && !reserved.contains c then [c] else (utf8Bytes c).flatMap percentByte

/-- The value of a hexadecimal digit. -/
def hexDigitValue? (c : Char) : Option Nat :=
  if c.isDigit then some (c.toNat - '0'.toNat)
  else if 'a' ≤ c ∧ c ≤ 'f' then some (c.toNat - 'a'.toNat + 10)
  else if 'A' ≤ c ∧ c ≤ 'F' then some (c.toNat - 'A'.toNat + 10)
  else none

/-- The bytes that an encoded text stands for. A percent sign without digits stands for itself. -/
def percentDecodedBytes : List Char → List UInt8
  | [] => []
  | '%' :: a :: b :: rest =>
    match hexDigitValue? a, hexDigitValue? b with
    | some x, some y => (16 * x + y).toUInt8 :: percentDecodedBytes rest
    | _, _ => utf8Bytes '%' ++ percentDecodedBytes (a :: b :: rest)
  | c :: rest => utf8Bytes c ++ percentDecodedBytes rest

/-- The symbols that an encoded text stands for. -/
def percentDecode (cs : List Char) : List Symbol := Utf8.symbols (percentDecodedBytes cs)

/-- Whether a character stands for itself in a form. -/
def isFormSafe (c : Char) : Bool :=
  c.toNat < 0x80 && (c.isAlphanum || c == '*' || c == '-' || c == '.' || c == '_')

/-- A text as the value of a form field: spaces become plus signs. -/
def formEncode (cs : List Char) : List Char :=
  cs.flatMap fun c =>
    if isFormSafe c then [c]
    else if c = ' ' then ['+']
    else (utf8Bytes c).flatMap percentByte

end ServiceClause.Http
