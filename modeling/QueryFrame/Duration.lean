/-!
# Spans of time

A span is written in the largest unit of which it holds at least one, from seconds down to
nanoseconds, with all of its digits behind the point and no zeros at their end.
-/

namespace QueryFrame

structure Duration where
  nanos : Nat
  deriving DecidableEq, Repr

namespace Duration

def ofSeconds (seconds : Nat) : Duration := ⟨seconds * 1000000000⟩

/-- The unit a span is written in: its symbol, its nanoseconds, and the digits that these need. -/
def unit (d : Duration) : String × Nat × Nat :=
  if 1000000000 ≤ d.nanos then ("s", 1000000000, 9)
  else if 1000000 ≤ d.nanos then ("ms", 1000000, 6)
  else if 1000 ≤ d.nanos then ("µs", 1000, 3)
  else ("ns", 1, 0)

/-- The digits behind the point, `places` of them less the zeros at the end. -/
def fraction (places part : Nat) : List Char :=
  let digits := (Nat.toDigits 10 part).leftpad places '0'
  (digits.reverse.dropWhile (· == '0')).reverse

def text (d : Duration) : String :=
  let (symbol, size, places) := d.unit
  let whole := toString (d.nanos / size)
  match fraction places (d.nanos % size) with
  | [] => whole ++ symbol
  | digits => whole ++ "." ++ .ofList digits ++ symbol

end Duration

end QueryFrame
