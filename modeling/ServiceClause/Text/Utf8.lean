/-!
# Reading UTF-8

Bytes are read as symbols: a character where they encode one, and nothing for each longest run of
bytes that begins the encoding of a character without completing it, or that cannot begin one.

## Main definitions

* `ServiceClause.Symbol` — a character or a fault.
* `ServiceClause.Utf8.symbols` — the symbols that bytes stand for.
* `ServiceClause.Utf8.lossyText` — the text with a replacement character for every fault.
-/

set_option autoImplicit false

namespace ServiceClause

/-- What bytes stand for: a character, or nothing where they are not UTF-8. -/
abbrev Symbol := Option Char

/-- The symbols of a text. -/
def symbolsOf (s : String) : List Symbol := s.toList.map some

namespace Utf8

/-- A character whose encoding has begun. -/
structure Begun where
  /-- The number of bytes still to come, less one. -/
  further : Nat
  /-- The least value of the next byte. -/
  low : Nat
  /-- The greatest value of the next byte. -/
  high : Nat
  /-- The bits read so far, as a number. -/
  bits : Nat

/-- The character that a lead byte begins. The bounds on the next byte leave out overlong forms,
surrogates and code points beyond the last. -/
def lead? (b : Nat) : Option Begun :=
  if 0xc2 ≤ b ∧ b ≤ 0xdf then some ⟨0, 0x80, 0xbf, b - 0xc0⟩
  else if b = 0xe0 then some ⟨1, 0xa0, 0xbf, 0⟩
  else if b = 0xed then some ⟨1, 0x80, 0x9f, 0xd⟩
  else if 0xe1 ≤ b ∧ b ≤ 0xef then some ⟨1, 0x80, 0xbf, b - 0xe0⟩
  else if b = 0xf0 then some ⟨2, 0x90, 0xbf, 0⟩
  else if 0xf1 ≤ b ∧ b ≤ 0xf3 then some ⟨2, 0x80, 0xbf, b - 0xf0⟩
  else if b = 0xf4 then some ⟨2, 0x80, 0x8f, 4⟩
  else none

/-- A byte between two characters: the symbols it completes and the character it begins. -/
def start (b : Nat) : List Symbol × Option Begun :=
  if b < 0x80 then ([some (Char.ofNat b)], none)
  else match lead? b with
    | some begun => ([], some begun)
    | none => ([none], none)

/-- A byte: the symbols it completes and the character that is begun after it. -/
def feed : Option Begun → Nat → List Symbol × Option Begun
  | none, b => start b
  | some begun, b =>
    if begun.low ≤ b ∧ b ≤ begun.high then
      let bits := 64 * begun.bits + (b - 0x80)
      match begun.further with
      | 0 => ([some (Char.ofNat bits)], none)
      | further + 1 => ([], some ⟨further, 0x80, 0xbf, bits⟩)
    else (none :: (start b).1, (start b).2)

/-- The symbols of the bytes that follow the beginning of a character. -/
def symbolsAfter : Option Begun → List UInt8 → List Symbol
  | none, [] => []
  | some _, [] => [none]
  | begun, b :: bytes =>
    (feed begun b.toNat).1 ++ symbolsAfter (feed begun b.toNat).2 bytes

/-- The symbols that bytes stand for. -/
def symbols (bytes : List UInt8) : List Symbol := symbolsAfter none bytes

/-- The text with the character U+FFFD for every fault. -/
def lossyText (l : List Symbol) : String :=
  String.ofList (l.map (·.getD (Char.ofNat 0xfffd)))

end Utf8

end ServiceClause
