import ServiceClause.Text.CombiningClass
import ServiceClause.Text.Composition

/-!
# Canonical composition

The same text can be written with composed characters or with letters and marks, and with marks in
different orders. In the canonical form marks are ordered by their class, and what can be composed
is composed. Characters that stand for one other character are taken to have been replaced before.

## Main definitions

* `ServiceClause.decompose` — a text with all composed characters taken apart.
* `ServiceClause.reorder` — a text with its marks ordered by their class.
* `ServiceClause.compose` — a text with all that can be composed put together.
* `ServiceClause.canonical` — the canonical form of a text.
-/

set_option autoImplicit false

namespace ServiceClause

/-! ## Taking apart -/

/-- The characters that a character is made up of in the end, its first part having been taken apart
`depth` times at most. -/
def decomposeChar (depth : Nat) (c : Char) : List Char :=
  match depth, parts? c with
  | depth + 1, some (a, b) => decomposeChar depth a ++ [b]
  | _, _ => [c]

/-- The text with all composed characters taken apart. No character has more than four parts. -/
def decompose (cs : List Char) : List Char := cs.flatMap (decomposeChar 3)

/-! ## Ordering marks -/

/-- Puts a character in front of a text, but after the marks at its beginning that have a lower
class. -/
def insertByClass (c : Char) : List Char → List Char
  | [] => [c]
  | d :: ds =>
    if combiningClass d ≠ 0 ∧ combiningClass d < combiningClass c then d :: insertByClass c ds
    else c :: d :: ds

/-- The text with its marks ordered by their class. -/
def reorder (cs : List Char) : List Char := cs.foldr insertByClass []

/-! ## Putting together -/

/-- Whether a mark stands between a character and the letter that it could be composed with.
`passed` are the marks after the letter, the last one first. -/
def isBlocked (passed : List Char) (c : Char) : Bool :=
  passed.head?.any fun d => combiningClass c ≤ combiningClass d

/-- Puts together a letter and what follows it. `passed` are the marks after the letter that it
could not be composed with, the last one first. -/
def composeAfter (letter : Char) (passed : List Char) : List Char → List Char
  | [] => letter :: passed.reverse
  | c :: cs =>
    match if isBlocked passed c then none else composed? letter c with
    | some whole => composeAfter whole passed cs
    | none =>
      if combiningClass c = 0 then letter :: passed.reverse ++ composeAfter c [] cs
      else composeAfter letter (c :: passed) cs

/-- The text with all that can be composed put together. -/
def compose : List Char → List Char
  | [] => []
  | c :: cs => if combiningClass c = 0 then composeAfter c [] cs else c :: compose cs

/-- The canonical form of a text. A text in ASCII is in it. -/
def canonical (cs : List Char) : List Char :=
  if cs.all (·.toNat < 0x80) then cs else compose (reorder (decompose cs))

end ServiceClause
