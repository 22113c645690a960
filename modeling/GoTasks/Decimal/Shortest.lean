import GoTasks.Decimal.Binary64

/-!
# Shortest decimals

A number of a binary format is written with the fewest digits that are read back as the same
number, and with the nearest such digits if there are several. The numbers read back as a
given one fill an interval around it, whose ends belong to it exactly when the significand is
even. So the search goes over decimal grids from coarse to fine: the first grid with a point
in the interval gives the digits.
-/

namespace GoTasks.Decimal

/-- The decimals read back as a magnitude, in quarters of a unit, and the magnitude itself. -/
structure Interval where
  low : Nat
  value : Nat
  high : Nat
  closed : Bool
  deriving DecidableEq, Repr

/-- The interval of a magnitude. Below a power of two the numbers lie twice as close. -/
def Magnitude.interval (m : Magnitude) : Interval :=
  let below := if m.significand = Nat.pow 2 52 ∧ 0 < m.shift then 1 else 2
  { low := (4 * m.significand - below) * Nat.pow 2 m.shift
    value := 4 * m.significand * Nat.pow 2 m.shift
    high := (4 * m.significand + 2) * Nat.pow 2 m.shift
    closed := m.significand % 2 = 0 }

/-- Whether a point lies in an interval. -/
def Interval.contains (i : Interval) (point : Nat) : Bool :=
  (i.low < point && point < i.high) || (i.closed && (i.low = point || point = i.high))

/-- Digits and the power of ten they are multiplied with. -/
structure Digits where
  digits : Nat
  exponent : Int
  deriving DecidableEq, Repr

def Interval.scale (i : Interval) (factor : Nat) : Interval :=
  { i with low := i.low * factor, value := i.value * factor, high := i.high * factor }

/-- The point of the grid of `10 ^ exponent` that lies in an interval, if there is one; of two,
the nearer to the value, and the upper if both are as near. -/
def Interval.gridPoint? (i : Interval) (exponent : Int) : Option Nat :=
  let step := 4 * Nat.pow 2 unitExponent * Nat.pow 10 exponent.toNat
  let fine := i.scale (Nat.pow 10 (-exponent).toNat)
  let lower := fine.value / step
  let upper := lower + 1
  match fine.contains (lower * step), fine.contains (upper * step) with
  | true, true =>
    some (if fine.value - lower * step < upper * step - fine.value then lower else upper)
  | true, false => some lower
  | false, true => some upper
  | false, false => none

/-- The first grid, going down from `10 ^ exponent`, with a point in an interval. -/
def Interval.search (i : Interval) : Nat → Int → Option Digits
  | 0, _ => none
  | fuel + 1, exponent =>
    match i.gridPoint? exponent with
    | some digits => some ⟨digits, exponent⟩
    | none => i.search fuel (exponent - 1)

/-- The coarsest grid on which a finite number can have a point. -/
def coarsestExponent : Int := 309

/-- The number of grids from the coarsest to one finer than every unit. -/
def gridCount : Nat := 700

/-- The shortest digits of a magnitude. -/
def Magnitude.shortest (m : Magnitude) : Digits :=
  if m.significand = 0 then ⟨0, 0⟩
  else (m.interval.search gridCount coarsestExponent).getD ⟨0, 0⟩

/-- Digits written out in full, without an exponent. -/
def Digits.positional (d : Digits) : String :=
  let shown := toString d.digits
  if 0 ≤ d.exponent then shown ++ "".pushn '0' d.exponent.toNat
  else
    let places := (-d.exponent).toNat
    if places < shown.length then
      let cs := shown.toList
      String.ofList (cs.take (cs.length - places)) ++ "." ++
        String.ofList (cs.drop (cs.length - places))
    else "0." ++ "".pushn '0' (places - shown.length) ++ shown

/-- A number as text: shortest digits, written out in full, with a point in any case. -/
def Binary64.text : Binary64 → String
  | .notANumber => "NaN"
  | .infinite negative => if negative then "-inf" else "inf"
  | .finite negative magnitude =>
    let digits := magnitude.shortest
    let shown := digits.positional ++ if 0 ≤ digits.exponent then ".0" else ""
    if negative then "-" ++ shown else shown

end GoTasks.Decimal
