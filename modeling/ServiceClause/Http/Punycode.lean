/-!
# Punycode

Labels of host names in ASCII. The ASCII characters of a label are written first; the others follow
as differences, in ascending order of their code points, in a number system whose digits adapt to
the size of the differences.

## Main definitions

* `ServiceClause.Http.Punycode.encode` — a label in ASCII, without the mark in front.
* `ServiceClause.Http.Punycode.decode?` — the label that such a text stands for.
-/

set_option autoImplicit false

namespace ServiceClause.Http.Punycode

/-- The character of a digit: letters up to 25, then the decimal digits. -/
def digit (n : Nat) : Char := Char.ofNat (if n < 26 then 0x61 + n else 0x30 + n - 26)

/-- The least digit that is not the last one, at a position of a number. -/
def threshold (position bias : Nat) : Nat :=
  if position ≤ bias then 1 else if bias + 26 ≤ position then 26 else position - bias

theorem threshold_bounds (position bias : Nat) :
    1 ≤ threshold position bias ∧ threshold position bias ≤ 26 := by
  unfold threshold
  split
  · omega
  · split <;> omega

/-- The digits of a difference, the least significant first. -/
def digits (bias position n : Nat) : List Char :=
  let t := threshold position bias
  if n < t then [digit n]
  else digit (t + (n - t) % (36 - t)) :: digits bias (position + 36) ((n - t) / (36 - t))
termination_by n
decreasing_by
  have h := threshold_bounds position bias
  exact Nat.lt_of_le_of_lt (Nat.div_le_self _ _) (by omega)

/-- Divides a difference until it is small, counting the divisions. -/
def scaleDown (difference count : Nat) : Nat × Nat :=
  if 455 < difference then scaleDown (difference / 35) (count + 36) else (difference, count)
termination_by difference
decreasing_by exact Nat.div_lt_self (by omega) (by omega)

/-- The bias after a difference has been written. -/
def adapt (difference count : Nat) (isFirst : Bool) : Nat :=
  let scaled := if isFirst then difference / 700 else difference / 2
  let (left, passed) := scaleDown (scaled + scaled / count) 0
  passed + 36 * left / (left + 38)

/-- What has been written, and where the writing stands. -/
structure State where
  /-- The digits so far. -/
  written : List Char
  /-- The positions passed since the last digits. -/
  difference : Nat
  /-- The bias of the next digits. -/
  bias : Nat
  /-- The number of characters that have been written. -/
  count : Nat

/-- Passes one character of the label while the characters with code point `point` are written.
`basic` is the number of ASCII characters. -/
def pass (basic point : Nat) (s : State) (c : Char) : State :=
  if c.toNat < point then { s with difference := s.difference + 1 }
  else if c.toNat = point then
    { written := s.written ++ digits s.bias 36 s.difference
      difference := 0
      bias := adapt s.difference (s.count + 1) (s.count == basic)
      count := s.count + 1 }
  else s

/-- Writes the characters with the given code points, which ascend from `next` on. -/
def writePoints (label : List Char) (basic : Nat) : List Nat → Nat → State → State
  | [], _, s => s
  | point :: points, next, s =>
    let s := { s with difference := s.difference + (point - next) * (s.count + 1) }
    let s := label.foldl (pass basic point) s
    writePoints label basic points (point + 1) { s with difference := s.difference + 1 }

/-- The label in ASCII. -/
def encode (label : List Char) : List Char :=
  let basic := label.filter fun c => c.toNat < 0x80
  let points := ((label.filter fun c => 0x80 ≤ c.toNat).map Char.toNat).eraseDups.mergeSort
  let s := writePoints label basic.length points 0x80 ⟨[], 0, 72, basic.length⟩
  basic ++ (if basic.isEmpty then [] else ['-']) ++ s.written

/-! ## Reading -/

/-- The value of a digit, a letter of either case or a decimal digit. -/
def digitValue? (c : Char) : Option Nat :=
  if c.isLower then some (c.toNat - 0x61)
  else if c.isUpper then some (c.toNat - 0x41)
  else if c.isDigit then some (c.toNat - 0x30 + 26)
  else none

/-- Numbers are held in four bytes. -/
def bound : Nat := 0x100000000

/-- Reads the digits of a difference, which is added to `sum`, and gives what follows them. `weight`
is the value of the next digit. -/
def readDifference? (bias : Nat) : (position weight sum : Nat) → List Char →
    Option (Nat × List Char)
  | _, _, _, [] => none
  | position, weight, sum, c :: cs => do
    let d ← digitValue? c
    let sum := sum + d * weight
    let t := threshold position bias
    if bound ≤ sum then none
    else if d < t then some (sum, cs)
    else if bound ≤ weight * (36 - t) then none
    else readDifference? bias (position + 36) (weight * (36 - t)) sum cs

theorem length_of_readDifference? {bias position weight sum n : Nat} {cs rest : List Char}
    (h : readDifference? bias position weight sum cs = some (n, rest)) :
    rest.length < cs.length := by
  induction cs generalizing position weight sum with
  | nil => simp [readDifference?] at h
  | cons c cs ih =>
    simp only [readDifference?, Option.bind_eq_bind, Option.bind_eq_some_iff] at h
    obtain ⟨d, -, h⟩ := h
    split at h
    · exact absurd h (by simp)
    · split at h
      · simp only [Option.some.injEq, Prod.mk.injEq] at h
        simp [← h.2]
      · split at h
        · exact absurd h (by simp)
        · have := ih h
          simp only [List.length_cons]
          omega

/-- What has been read, and where the reading stands. -/
structure Progress where
  /-- The label so far. -/
  label : List Char
  /-- The code point of the last character that was put in. -/
  point : Nat
  /-- Where the next character goes, counted from the last one. -/
  place : Nat
  /-- The bias of the next digits. -/
  bias : Nat

/-- Puts in the character at a difference that has been added to the place, where there is such a
character. -/
def Progress.insert? (p : Progress) (sum : Nat) : Option Progress :=
  let length := p.label.length + 1
  let point := p.point + sum / length
  if point.isValidChar then
    some {
      label := p.label.insertIdx (sum % length) (Char.ofNat point)
      point
      place := sum % length + 1
      bias := adapt (sum - p.place) length (p.place == 0) }
  else none

/-- Reads the differences of a text. -/
def readAll? (p : Progress) (cs : List Char) : Option (List Char) :=
  if cs = [] then some p.label
  else match next : readDifference? p.bias 36 1 p.place cs with
    | none => none
    | some (sum, rest) =>
      have := length_of_readDifference? next
      match p.insert? sum with
      | none => none
      | some p => readAll? p rest
termination_by cs.length

/-- The ASCII characters and the digits of a text: what stands before and after its last hyphen. A
hyphen without anything before it separates nothing. -/
def splitBasic (cs : List Char) : List Char × List Char :=
  match cs.reverse.dropWhile (· != '-') with
  | [] => ([], cs)
  | [_] => ([], cs)
  | _ :: basic => (basic.reverse, (cs.reverse.takeWhile (· != '-')).reverse)

/-- The label that a text stands for. -/
def decode? (cs : List Char) : Option (List Char) :=
  readAll? ⟨(splitBasic cs).1, 0x80, 0, 72⟩ (splitBasic cs).2

end ServiceClause.Http.Punycode
