import ServiceClause.Text.Alphabetic
import ServiceClause.Text.Mark
import ServiceClause.Text.Numeral

/-!
# Words

Two classes of characters that names are made of. They differ outside ASCII: a word may hold
combining marks and connectors but no superscript digits, an alphanumeric text the other way round.
Nor may a word hold the letters that Unicode took in last, which an alphanumeric text may.

## Main definitions

* `ServiceClause.isWord` — the characters of a word: alphabetic characters, marks, decimal digits,
  connectors such as the underscore, and the two joiners.
* `ServiceClause.isAlphanumeric` — alphabetic characters and numerals of every kind.
-/

set_option autoImplicit false

namespace ServiceClause

/-- Whether a character is punctuation that connects words, such as the underscore. -/
def isConnector (c : Char) : Bool :=
  c == '_' || CodeRange.covers (CodeRange.ofPairs
    [(0x203f, 0x2040), (0x2054, 0x2054), (0xfe33, 0xfe34), (0xfe4d, 0xfe4f), (0xff3f, 0xff3f)]) c

/-- Whether a character is the zero width joiner or non-joiner. -/
def isJoiner (c : Char) : Bool :=
  c.toNat == 0x200c || c.toNat == 0x200d

/-- The ranges of the letters, marks and digits that Unicode added after version 16. Words are made
of the characters of that version. -/
def recentTable : List CodeRange := CodeRange.ofPairs
   [(0x5c8, 0x5c8), (0x88f, 0x88f), (0xc5c, 0xc5c), (0xcdc, 0xcdc), (0x1acf, 0x1add),
    (0x1ae0, 0x1aeb), (0xa7ce, 0xa7cf), (0xa7d2, 0xa7d2), (0xa7d4, 0xa7d4), (0xa7f1, 0xa7f1),
    (0x10940, 0x10959), (0x10ec5, 0x10ec7), (0x10efa, 0x10efb), (0x11b60, 0x11b67),
    (0x11db0, 0x11ddb), (0x11de0, 0x11de9), (0x16ea0, 0x16eb8), (0x16ebb, 0x16ed3),
    (0x16ff2, 0x16ff6), (0x187f8, 0x187ff), (0x18d09, 0x18d1e), (0x18d80, 0x18df2),
    (0x1e6c0, 0x1e6de), (0x1e6e0, 0x1e6f5), (0x1e6fe, 0x1e6ff), (0x2b73a, 0x2b73f),
    (0x2cea2, 0x2cead), (0x323b0, 0x33479)]

/-- Whether a character belongs to a word. -/
def isWord (c : Char) : Bool :=
  (isAlphabetic c || isDecimalDigit c || isConnector c || isMark c || isJoiner c) &&
    !CodeRange.covers recentTable c

/-- Whether a character is alphabetic or a numeral. -/
def isAlphanumeric (c : Char) : Bool :=
  isAlphabetic c || isDecimalDigit c || isOtherNumeral c

end ServiceClause
