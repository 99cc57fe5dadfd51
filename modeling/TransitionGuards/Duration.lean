import TransitionGuards.Text.Decimal

/-
  Lengths of time, counted in nanoseconds, and their text: the largest unit
  that fits at least once, with as many decimals as are needed.
-/

namespace TransitionGuards

structure Duration where
  nanoseconds : Nat
  deriving DecidableEq, Repr, Inhabited

namespace Duration

def ofMilliseconds (n : Nat) : Duration := ⟨n * 1000000⟩

def ofParts (seconds nanoseconds : Nat) : Duration := ⟨seconds * 1000000000 + nanoseconds⟩

/-- Whole milliseconds, the rest dropped. -/
def milliseconds (d : Duration) : Nat := d.nanoseconds / 1000000

/-- The `places` decimals of `part` out of `10 ^ places`, zeros at the end
dropped, behind a point unless none is left. -/
private def decimals (places part : Nat) : List Char :=
  let ds := digits part
  let padded := List.replicate (places - ds.length) '0' ++ ds
  match (padded.reverse.dropWhile (· == '0')).reverse with
  | [] => []
  | kept => '.' :: kept

/-- `n` nanoseconds in a unit of `10 ^ places` nanoseconds. -/
private def inUnit (places : Nat) (unit : String) (n : Nat) : String :=
  String.ofList (digits (n / Nat.pow 10 places) ++ decimals places (n % Nat.pow 10 places)) ++ unit

/-- The duration in seconds, milliseconds, microseconds or nanoseconds: in the
largest of these units of which it holds at least one. -/
def text (d : Duration) : String :=
  if 1000000000 ≤ d.nanoseconds then inUnit 9 "s" d.nanoseconds
  else if 1000000 ≤ d.nanoseconds then inUnit 6 "ms" d.nanoseconds
  else if 1000 ≤ d.nanoseconds then inUnit 3 "µs" d.nanoseconds
  else inUnit 0 "ns" d.nanoseconds

end Duration

end TransitionGuards
