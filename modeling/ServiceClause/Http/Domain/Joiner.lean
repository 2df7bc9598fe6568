import ServiceClause.Text.CombiningClass
import ServiceClause.Text.Joining

/-!
# Joiners in domain names

The zero width joiner and non-joiner are not seen, so they may occur in a domain name only where
they change the shape of the letters around them.

## Main definitions

* `ServiceClause.Http.joinersApply` — whether every joiner of a label changes something.
-/

set_option autoImplicit false

namespace ServiceClause.Http

/-- Whether a character is a virama, the sign that drops the vowel of a consonant. -/
def isVirama (c : Char) : Bool := combiningClass c == 9

/-- Whether a letter that has a property comes first, apart from marks. -/
def comesFirst (p : Char → Bool) (cs : List Char) : Bool :=
  (cs.dropWhile isTransparent).head?.any p

/-- Whether a joiner changes something between the characters before it, the last one first, and
those after it. Both joiners do after a virama; the non-joiner does between letters that would join
otherwise. -/
def joinerApplies (before : List Char) (c : Char) (after : List Char) : Bool :=
  before.head?.any isVirama ||
    (c.toNat == 0x200c && before != [] && comesFirst joinsAfter before &&
      comesFirst joinsBefore after)

/-- Whether every joiner changes something. `before` are the characters so far, the last one
first. -/
def joinersApplyAfter (before : List Char) : List Char → Bool
  | [] => true
  | c :: cs =>
    ((c.toNat != 0x200c && c.toNat != 0x200d) || joinerApplies before c cs) &&
      joinersApplyAfter (c :: before) cs

/-- Whether every joiner of a label changes something. -/
def joinersApply (label : List Char) : Bool := joinersApplyAfter [] label

end ServiceClause.Http
