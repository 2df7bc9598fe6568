import ServiceClause.Text.Emoji
import ServiceClause.Text.Joining
import ServiceClause.Text.Width

/-!
# Width of text in a terminal

A text is as wide as its characters, except where several of them are shown as one: letters that
merge, flags, pictographs with a skin tone or put together by joiners, and characters behind which a
selector asks for another style. A text is measured from its end, so that a character is measured
with a view to what follows it.

## Main definitions

* `ServiceClause.Following` — what follows a character, as far as its width depends on it.
* `ServiceClause.measure` — the columns that a character adds, and what it is for the one before it.
* `ServiceClause.textWidth` — the columns of a text.
-/

set_option autoImplicit false

namespace ServiceClause

/-- The characters that may merge with those before them. -/
inductive Mergeable where
  /-- A line feed. -/
  | lineFeed
  /-- The Arabic letter alef, which merges with a lam. -/
  | alef
  /-- The Hebrew letter lamed. -/
  | lamed
  /-- The Buginese letter ya. -/
  | ya
  /-- The Buginese letter ya after a joiner and the vowel sign i. -/
  | iya
  /-- A Tifinagh consonant. -/
  | tifinagh
  /-- A Tifinagh consonant after the consonant joiner. -/
  | joinedTifinagh
  /-- One of the last two Lisu tones. -/
  | lisuTone
  /-- The Old Turkic letter i. -/
  | orkhonI
  /-- A Khmer letter that may be written below another one. -/
  | khmerLetter
  /-- The Kirat Rai vowel sign e. -/
  | kiratE
  /-- The Kirat Rai vowel sign ai. -/
  | kiratAi
  /-- A pictograph shown in colour. -/
  | emoji
  /-- A skin tone. -/
  | tone
  /-- A letter of a flag. -/
  | flagLetter
  /-- Several letters of flags. -/
  | flagLetters
  /-- A joiner before a pictograph. -/
  | joinedEmoji
  /-- The frame of a key before a joiner and a pictograph. -/
  | joinedKey
  /-- A letter of a flag before a joiner and a pictograph. -/
  | joinedFlagLetter
  /-- An even number of letters of flags before a joiner and a pictograph. -/
  | joinedFlags
  /-- An odd number of letters of flags, three or more, before a joiner and a pictograph. -/
  | joinedOddFlags
  /-- Tag letters at the end of a tagged flag. -/
  | tagLetters (count : Nat)
  /-- Tag digits at the end of a tagged flag. -/
  | tagDigits (count : Nat)
deriving DecidableEq, Repr

/-- What follows a character, as far as its width depends on it. -/
structure Following where
  /-- The character that may merge, if there is one. -/
  base? : Option Mergeable
  /-- Whether a joiner stands before it. -/
  joined : Bool
  /-- Whether a selector of the plain style stands before it. -/
  plain : Bool
  /-- Whether a selector of the colour style stands before it. -/
  colour : Bool
  /-- Whether a selector of the wide style stands before it. -/
  wide : Bool
deriving DecidableEq, Repr

namespace Mergeable

/-- Whether joiners and selectors in between do not keep the characters from merging. -/
def bridges : Mergeable → Bool
  | .lamed | .ya | .iya | .tifinagh | .joinedTifinagh | .lisuTone | .orkhonI | .khmerLetter => true
  | _ => false

/-- Whether selectors are kept in mind besides the character. -/
def keepsSelectors (m : Mergeable) : Bool := m.bridges || m = .alef

/-- Whether the selector of the colour style is kept in mind besides the character. -/
def keepsColour (m : Mergeable) : Bool := m.keepsSelectors || m = .joinedEmoji || m = .joinedKey

end Mergeable

namespace Following

/-- Nothing that matters. -/
def nothing : Following := ⟨none, false, false, false, false⟩

/-- A character that may merge. -/
def of (m : Mergeable) : Following := ⟨some m, false, false, false, false⟩

/-- Whether the character that follows has a property. -/
def has (x : Following) (p : Mergeable → Bool) : Bool := x.base?.any p

/-- A selector of the plain style before what follows. -/
def withPlain (x : Following) : Following :=
  if x.has (·.keepsSelectors) then { x with plain := true } else { nothing with plain := true }

/-- A selector of the colour style before what follows. -/
def withColour (x : Following) : Following :=
  if x.has (·.keepsColour) then { x with colour := true } else { nothing with colour := true }

/-- A selector of the wide style before what follows. -/
def withWide (x : Following) : Following :=
  if x.has (·.keepsSelectors) then { x with wide := true } else { nothing with wide := true }

/-- What follows, once a selector of the colour style has met a character without styles. -/
def withoutColour (x : Following) : Following :=
  if !x.colour then x else if x.has (·.keepsSelectors) then { x with colour := false } else nothing

/-- What follows, once the first of the other selectors has not been met. -/
def withoutSelector (x : Following) : Following :=
  if x.plain then { x with plain := false } else { x with wide := false }

end Following

/-! ## Characters that stand alone -/

/-- Whether a character is an Arabic letter of the group of lam. -/
def isLam (c : Char) : Bool :=
  CodeRange.covers (CodeRange.ofPairs
    [(0x644, 0x644), (0x6b5, 0x6b8), (0x76a, 0x76a), (0x8a6, 0x8a6), (0x8c7, 0x8c7)]) c

/-- Whether a character is an Arabic letter of the group of alef. -/
def isAlef (c : Char) : Bool :=
  CodeRange.covers (CodeRange.ofPairs
    [(0x622, 0x623), (0x625, 0x625), (0x627, 0x627), (0x671, 0x673), (0x675, 0x675),
      (0x773, 0x774), (0x870, 0x882)]) c

/-- Whether a character is a Khmer letter whose form below another letter adds no width. -/
def isKhmerSubjoinable (c : Char) : Bool :=
  CodeRange.covers (CodeRange.ofPairs
    [(0x1780, 0x1782), (0x1784, 0x1787), (0x1789, 0x178c), (0x178e, 0x1793), (0x1795, 0x1798),
      (0x179b, 0x179d), (0x17a0, 0x17a0), (0x17a2, 0x17a2), (0x17a7, 0x17a7), (0x17ab, 0x17ac),
      (0x17af, 0x17af)]) c

/-- Whether a character is a Tifinagh consonant. -/
def isTifinagh (c : Char) : Bool :=
  (0x2d31 ≤ c.toNat && c.toNat ≤ 0x2d65) || c.toNat == 0x2d6f

/-- Whether a character is a mark without any look of its own, or the joiner. -/
def isInvisibleMark (c : Char) : Bool :=
  CodeRange.covers (CodeRange.ofPairs
    [(0x34f, 0x34f), (0x17b4, 0x17b5), (0x180b, 0x180d), (0x180f, 0x180f), (0x200d, 0x200d),
      (0xfe00, 0xfe0f), (0xe0100, 0xe01ef)]) c

/-- Whether a character is a quotation mark that comes in a wide style. -/
def isCurlyQuote (c : Char) : Bool :=
  c.toNat == 0x2018 || c.toNat == 0x2019 || c.toNat == 0x201c || c.toNat == 0x201d

/-- Whether a character is a letter in a tag. -/
def isTagLetter (c : Char) : Bool := 0xe0061 ≤ c.toNat && c.toNat ≤ 0xe007a

/-- Whether a character is a digit in a tag. -/
def isTagDigit (c : Char) : Bool := 0xe0030 ≤ c.toNat && c.toNat ≤ 0xe0039

/-- The character as one that may merge with those before it. -/
def mergeable? (c : Char) : Option Mergeable :=
  let n := c.toNat
  if n = 0x5dc then some .lamed
  else if isAlef c then some .alef
  else if isKhmerSubjoinable c then some .khmerLetter
  else if n = 0x1a10 then some .ya
  else if isTifinagh c then some .tifinagh
  else if n = 0xa4fc ∨ n = 0xa4fd then some .lisuTone
  else if n = 0x10c03 then some .orkhonI
  else if n = 0x16d67 then some .kiratE
  else if n = 0x16d68 then some .kiratAi
  else if isFlagLetter c then some .flagLetter
  else if isTone c then some .tone
  else if isEmoji c then some .emoji
  else none

/-- What a character is for the one before it. -/
def followingOf (c : Char) : Following :=
  if c.toNat = 0xfe01 then Following.nothing.withWide
  else if c.toNat = 0xfe0e then Following.nothing.withPlain
  else if c.toNat = 0xfe0f then Following.nothing.withColour
  else { Following.nothing with base? := mergeable? c }

/-- The columns of a character that does not merge, and what it is for the one before it. -/
def measureAlone (c : Char) : Int × Following := (charWidth c, followingOf c)

/-! ## Characters that merge -/

/-- The columns that a character adds when it merges with the one that follows, and what both are
for the one before them. Columns are taken back where the one that follows had been given too
many. -/
def mergeWith (c : Char) (joined : Bool) : Mergeable → Option (Int × Following)
  | .alef =>
    if isLam c then some (0, .nothing)
    else if isTransparent c && charWidth c == 0 then some (0, .of .alef)
    else none
  | .lamed => if joined ∧ c.toNat = 0x5d0 then some (0, .nothing) else none
  | .ya => if joined ∧ c.toNat = 0x1a17 then some (0, .of .iya) else none
  | .iya => if c.toNat = 0x1a15 then some (0, .nothing) else none
  | .tifinagh =>
    if c.toNat = 0x2d7f then some (1, .of .joinedTifinagh)
    else if joined ∧ isTifinagh c then some (0, .nothing)
    else none
  | .joinedTifinagh => if isTifinagh c then some (-1, .nothing) else none
  | .lisuTone => if 0xa4f8 ≤ c.toNat ∧ c.toNat ≤ 0xa4fb then some (0, .nothing) else none
  | .orkhonI => if joined ∧ c.toNat = 0x10c32 then some (0, .nothing) else none
  | .khmerLetter => if c.toNat = 0x17d2 then some (-1, .nothing) else none
  | .kiratE =>
    if c.toNat = 0x16d63 ∨ c.toNat = 0x16d69 then some (0, .nothing)
    else if c.toNat = 0x16d67 then some (0, .of .kiratAi)
    else if c.toNat = 0x16d68 then some (1, .of .kiratE)
    else none
  | .kiratAi => if c.toNat = 0x16d63 then some (0, .nothing) else none
  | .emoji => if c.toNat = 0x200d then some (0, .of .joinedEmoji) else none
  | .tone =>
    if takesTone c then some (0, .of .emoji)
    else if c.toNat = 0x200d then some (0, .of .joinedEmoji)
    else none
  | .flagLetter => if isFlagLetter c then some (1, .of .flagLetters) else none
  | .flagLetters =>
    if isFlagLetter c then some (1, .of .flagLetters)
    else if c.toNat = 0x200d then some (0, .of .joinedEmoji)
    else none
  | .joinedEmoji =>
    if c.toNat = 0x20e3 then some (0, .of .joinedKey)
    else if isFlagLetter c then some (1, .of .joinedFlagLetter)
    else if isTone c then some (0, .of .tone)
    else if c.toNat = 0xe007f then some (0, .of (.tagLetters 0))
    else if isEmoji c then some (0, .of .emoji)
    else none
  | .joinedFlagLetter => if isFlagLetter c then some (-1, .of .joinedFlags) else none
  | .joinedFlags =>
    if isFlagLetter c then some (3, .of .joinedOddFlags)
    else if c.toNat = 0x200d then some (0, .of .joinedEmoji)
    else none
  | .joinedOddFlags =>
    if isFlagLetter c then some (-1, .of .joinedFlags)
    else if c.toNat = 0x200d then some (0, .of .joinedEmoji)
    else none
  | .tagLetters n =>
    if isTagLetter c ∧ n < 6 then some (0, .of (.tagLetters (n + 1)))
    else if isTagDigit c ∧ n < 5 then some (0, .of (.tagDigits 1))
    else if c.toNat = 0x1f3f4 ∧ 3 ≤ n then some (0, .of .emoji)
    else none
  | .tagDigits n =>
    if isTagDigit c ∧ n < 3 then some (0, .of (.tagDigits (n + 1)))
    else if c.toNat = 0x1f3f4 ∧ n = 3 then some (0, .of .emoji)
    else none
  | .lineFeed | .joinedKey => none

/-- A character that is neither in the first blocks of the code nor a selector, before something
that matters. -/
def measureBefore (c : Char) (x : Following) : Int × Following :=
  if x.plain && canBePlain c then (1, .nothing)
  else if !x.plain && x.wide && isCurlyQuote c then (2, .nothing)
  else
    let x := x.withoutSelector
    if x.has (·.bridges) && c.toNat == 0x200d then (0, { x with joined := true })
    else if x.has (·.bridges) && isInvisibleMark c then (0, x)
    else if x.wide then measureAlone c
    else ((x.base?.bind (mergeWith c x.joined)).getD (measureAlone c))

/-- The columns that a character adds to what follows it, and what it is for the one before it. -/
def measure (c : Char) (following : Following) : Int × Following :=
  if following.colour && hasStyles c then
    (if following.base? = some .joinedEmoji ∨ following.base? = some .joinedKey then 0 else 2,
      .of .emoji)
  else
    let x := following.withoutColour
    if c.toNat ≤ 0xa0 then
      if c = '\n' then (1, .of .lineFeed)
      else if c = '\r' ∧ x.base? = some .lineFeed then (0, .nothing)
      else (1, .nothing)
    else if x = .nothing then measureAlone c
    else if c.toNat = 0xfe0f then (0, x.withColour)
    else if c.toNat = 0xfe0e then (0, x.withPlain)
    else if c.toNat = 0xfe01 then (0, x.withWide)
    else measureBefore c x

/-- The columns of a text, and what its first character is for one before it. -/
def measureAll (cs : List Char) : Int × Following :=
  cs.foldr (fun c r => ((measure c r.2).1 + r.1, (measure c r.2).2)) (0, .nothing)

/-- The number of columns that a text takes. -/
def textWidth (cs : List Char) : Nat := (measureAll cs).1.toNat

end ServiceClause
