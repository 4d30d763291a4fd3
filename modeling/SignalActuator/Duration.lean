/-
  Durations — spans of time in whole nanoseconds, and their text.
-/
import SignalActuator.Timestamp

namespace SignalActuator

structure Duration where
  nanos : Nat
  deriving DecidableEq, Repr

namespace Duration

def ofSeconds (n : Nat) : Duration := ⟨n * 1000000000⟩

def trimZeros (ds : List Char) : List Char :=
  (ds.reverse.dropWhile (· == '0')).reverse

/-- A number of `10 ^ w`-th parts as an exact decimal fraction. -/
def decimal (w n : Nat) : String :=
  let whole := toString (n / Nat.pow 10 w)
  match trimZeros (Timestamp.padded w (n % Nat.pow 10 w)) with
  | [] => whole
  | ds => whole ++ "." ++ String.ofList ds

/-- The text of a span in the largest unit in which it is at least one. -/
def toText (d : Duration) : String :=
  if 1000000000 ≤ d.nanos then decimal 9 d.nanos ++ "s"
  else if 1000000 ≤ d.nanos then decimal 6 d.nanos ++ "ms"
  else if 1000 ≤ d.nanos then decimal 3 d.nanos ++ "µs"
  else toString d.nanos ++ "ns"

end Duration

end SignalActuator
