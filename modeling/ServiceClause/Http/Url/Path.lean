import ServiceClause.Http.Percent
import ServiceClause.Text.Split

/-!
# Paths

The segments of a path are followed one after another: a segment of one point stays where it is, one
of two points goes back. The path of a file may begin with a drive, from which there is no way back.

## Main definitions

* `ServiceClause.Http.Trail` — the segments that have been followed.
* `ServiceClause.Http.Trail.follow` — following segments.
-/

set_option autoImplicit false

namespace ServiceClause.Http

/-! ## Characters -/

/-- Whether a character is skipped wherever it stands in a URL: a line end or a tab. -/
def isSkipped (c : Char) : Bool := c == '\t' || c == '\n' || c == '\r'

/-- The text without the characters that are skipped. -/
def unskipped (cs : List Char) : List Char := cs.filter (!isSkipped ·)

/-- Whether a character separates the segments of a path. -/
def isSlash (special : Bool) (c : Char) : Bool := c == '/' || (special && c == '\\')

/-- What is encoded in a fragment. -/
def fragmentReserved : List Char := [' ', '"', '<', '>', Char.ofNat 0x60]

/-- What is encoded in a path. -/
def pathReserved : List Char := fragmentReserved ++ ['#', '?', '\x7b', '\x7d']

/-! ## Segments -/

/-- The segments of a path, the last of which may be empty. -/
def segments (special : Bool) (cs : List Char) : List (List Char) :=
  partsBetween '/' (cs.map fun c => if isSlash special c then '/' else c)

/-- A segment with its encoded points written out, as far as it consists of points. -/
def pointsOf (segment : List Char) : List Char :=
  match segment with
  | [] => []
  | '%' :: '2' :: c :: rest =>
    if c = 'e' ∨ c = 'E' then '.' :: pointsOf rest else '%' :: '2' :: c :: rest
  | '.' :: rest => '.' :: pointsOf rest
  | c :: rest => c :: rest

/-- Whether a segment is a drive: a letter with a colon or a bar. -/
def isDrive (segment : List Char) : Bool :=
  match segment with
  | [letter, c] => letter.isAlpha && (c == ':' || c == '|')
  | _ => false

/-- Whether a segment is a drive or begins with one and a backslash. -/
def beginsWithDrive (segment : List Char) : Bool :=
  isDrive (segment.take 2) && (segment.drop 2).head?.all (· == '\\')

/-- The letter of a drive at the beginning of a segment that characters to be skipped cut off from
the rest, and the rest. -/
def cutDrive? (segment : List Char) : Option (Char × List Char) :=
  match segment.dropWhile isSkipped with
  | [] => none
  | letter :: rest =>
    match rest.dropWhile isSkipped with
    | ':' :: c :: rest =>
      if letter.isAlpha && isSkipped c && unskipped rest != [] then some (letter, unskipped rest)
      else none
    | _ => none

/-! ## Following segments -/

/-- The segments that have been followed. -/
structure Trail where
  /-- The segments that lead on, the last one first. -/
  passed : List (List Char)
  /-- Whether the first one is a drive. -/
  onDrive : Bool
deriving DecidableEq, Repr

namespace Trail

/-- Where every path begins. -/
def start : Trail := ⟨[], false⟩

/-- Goes back, but not from a drive. -/
def back (t : Trail) : Trail :=
  if t.passed.head?.any beginsWithDrive then t else { t with passed := t.passed.drop 1 }

/-- Goes on to a segment. The first segment of a file may be a drive. -/
def enter (file : Bool) (t : Trail) (segment : List Char) : Trail :=
  let text := percentEncode pathReserved (unskipped segment)
  if file && t.passed.isEmpty && isDrive text then ⟨[text.take 1 ++ [':']], true⟩
  else match if file && t.passed.isEmpty then cutDrive? segment else none with
    | some (letter, rest) =>
      { t with passed := [percentEncode pathReserved rest, [letter, ':']] }
    | none => { t with passed := text :: t.passed }

/-- Follows one segment. A trail that has not gone on by its last one ends in an empty segment. -/
def move (file isLast : Bool) (t : Trail) (segment : List Char) : Trail :=
  let points := pointsOf (unskipped segment)
  let close (t : Trail) : Trail := if isLast then { t with passed := [] :: t.passed } else t
  if points = ['.', '.'] then close t.back
  else if points = ['.'] then close t
  else t.enter file segment

/-- Follows segments. -/
def follow (file : Bool) (t : Trail) : List (List Char) → Trail
  | [] => t
  | [segment] => t.move file true segment
  | segment :: rest => (t.move file false segment).follow file rest

/-- The path that a trail leads along. The path of a file does not begin with empty segments. -/
def path (file : Bool) (t : Trail) : String :=
  let segments := t.passed.reverse
  let segments := if file then segments.dropWhile (·.isEmpty) else segments
  String.ofList ('/' :: List.intercalate ['/'] segments)

end Trail

end ServiceClause.Http
