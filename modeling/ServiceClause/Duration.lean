/-!
# Durations

Lengths of time, counted in nanoseconds, and the text in which messages show them: the largest unit
of which the duration holds at least one, and the rest as a decimal fraction of that unit without
trailing zeros.

## Main definitions

* `ServiceClause.Duration` — a length of time.
* `ServiceClause.Duration.text` — the text shown to people, such as `1.5s` or `50ms`.
-/

set_option autoImplicit false

namespace ServiceClause

/-- A length of time. -/
structure Duration where
  /-- The number of nanoseconds. -/
  nanoseconds : Nat
deriving DecidableEq, Repr

namespace Duration

/-- The duration of no length. -/
def zero : Duration := ⟨0⟩

instance : Inhabited Duration := ⟨zero⟩

instance : LT Duration := ⟨fun a b => a.nanoseconds < b.nanoseconds⟩

instance : LE Duration := ⟨fun a b => a.nanoseconds ≤ b.nanoseconds⟩

instance (a b : Duration) : Decidable (a < b) :=
  inferInstanceAs (Decidable (a.nanoseconds < b.nanoseconds))

instance (a b : Duration) : Decidable (a ≤ b) :=
  inferInstanceAs (Decidable (a.nanoseconds ≤ b.nanoseconds))

/-- The shorter of two durations. -/
instance : Min Duration := ⟨fun a b => if b < a then b else a⟩

/-- The nanoseconds in a second. -/
def perSecond : Nat := 1000000000

/-- The duration of `n` seconds. -/
def ofSeconds (n : Nat) : Duration := ⟨n * perSecond⟩

/-- The duration of `n` milliseconds. -/
def ofMilliseconds (n : Nat) : Duration := ⟨n * 1000000⟩

/-- The whole seconds. -/
def seconds (d : Duration) : Nat := d.nanoseconds / perSecond

/-- The nanoseconds beyond the whole seconds. -/
def subsecond (d : Duration) : Nat := d.nanoseconds % perSecond

/-- The whole milliseconds. -/
def milliseconds (d : Duration) : Nat := d.nanoseconds / 1000000

/-- What is left of `d` after `e` has passed, nothing if `e` is longer. -/
def minus (d e : Duration) : Duration := ⟨d.nanoseconds - e.nanoseconds⟩

/-- The digits of `n` after the decimal point when `10 ^ places` make a whole, without trailing
zeros. -/
def fraction (places n : Nat) : List Char :=
  let digits := Nat.toDigits 10 n
  ((List.replicate (places - digits.length) '0' ++ digits).reverse.dropWhile (· == '0')).reverse

/-- `n` parts of which `10 ^ places` make one unit, as a decimal number with the unit's name. -/
def decimal (places n : Nat) (unit : String) : String :=
  let whole := toString (n / Nat.pow 10 places)
  let rest := n % Nat.pow 10 places
  if rest = 0 then whole ++ unit else whole ++ "." ++ String.ofList (fraction places rest) ++ unit

/-- The duration in the largest unit that it holds at least once. -/
def text (d : Duration) : String :=
  if perSecond ≤ d.nanoseconds then decimal 9 d.nanoseconds "s"
  else if 1000000 ≤ d.nanoseconds then decimal 6 d.nanoseconds "ms"
  else if 1000 ≤ d.nanoseconds then decimal 3 d.nanoseconds "µs"
  else decimal 0 d.nanoseconds "ns"

end Duration

end ServiceClause
