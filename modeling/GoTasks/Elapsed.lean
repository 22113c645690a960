import GoTasks.Stamp.Date

/-!
# Elapsed time

A span of time is counted in nanoseconds. It is written in the largest of four units that it fills,
with as many decimal places as it takes to write it exactly.
-/

namespace GoTasks

/-- A span of time. -/
structure Elapsed where
  nanoseconds : Nat
  deriving DecidableEq, Repr

namespace Elapsed

/-- A number of nanoseconds in a unit that holds so many of them, with that many decimal places
before trailing zeros are dropped. -/
def inUnit (size places : Nat) (unit : String) (n : Nat) : String :=
  let padded := (Instant.padded places (n % size)).toList
  let digits := (padded.reverse.dropWhile (· = '0')).reverse
  let fraction := if digits.isEmpty then "" else "." ++ String.ofList digits
  toString (n / size) ++ fraction ++ unit

def text (e : Elapsed) : String :=
  let n := e.nanoseconds
  if 1000000000 ≤ n then inUnit 1000000000 9 "s" n
  else if 1000000 ≤ n then inUnit 1000000 6 "ms" n
  else if 1000 ≤ n then inUnit 1000 3 "µs" n
  else inUnit 1 0 "ns" n

end Elapsed
end GoTasks
