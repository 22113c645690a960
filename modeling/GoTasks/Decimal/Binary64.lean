/-!
# Binary floating-point numbers

The numbers that a 64-bit binary format can hold, and the one that a decimal is read as.

A finite number is a significand times a power of two, counted in units of the smallest
positive number, `2 ^ -1074`. The power is then never negative, so all arithmetic is on
natural numbers and exact. Reading a decimal takes the nearest number, and of two equally
near ones the one with the even significand.
-/

namespace GoTasks.Decimal

/-- The magnitude `significand * 2 ^ shift` in units of `2 ^ -1074`. -/
structure Magnitude where
  significand : Nat
  shift : Nat
  deriving DecidableEq, Repr

/-- A number of the 64-bit binary format. -/
inductive Binary64 where
  | finite (negative : Bool) (magnitude : Magnitude)
  | infinite (negative : Bool)
  | notANumber
  deriving DecidableEq, Repr

/-- A decimal as it is written: digits times a power of ten. -/
structure Written where
  negative : Bool
  digits : Nat
  exponent : Int
  deriving DecidableEq, Repr

def significandBound : Nat := Nat.pow 2 53

def maxShift : Nat := 2045

def unitExponent : Nat := 1074

/-- The natural number nearest to a quotient; of two, the even one. -/
def nearestEven (n d : Nat) : Nat :=
  let q := n / d
  let r := n % d
  if 2 * r < d ∨ (2 * r = d ∧ q % 2 = 0) then q else q + 1

/-- The magnitude nearest to a quotient of units; `none` if it is too large for a finite one. -/
def Magnitude.nearest? (n d : Nat) : Option Magnitude :=
  let shift := (n / d).log2 - 52
  let rounded := nearestEven n (d * Nat.pow 2 shift)
  let result : Magnitude :=
    if rounded = significandBound then ⟨Nat.pow 2 52, shift + 1⟩ else ⟨rounded, shift⟩
  if result.shift ≤ maxShift then some result else none

/-- Decimals whose leading digit stands this high are infinite, and whose leading digit stands
this low are zero. -/
def exponentLimit : Int := 400

/-- The number that a written decimal is read as. -/
def Written.toBinary64 (w : Written) : Binary64 :=
  let leading := w.exponent + ((toString w.digits).length : Int)
  if w.digits = 0 ∨ leading < -exponentLimit then .finite w.negative ⟨0, 0⟩
  else if exponentLimit < leading then .infinite w.negative
  else
    let n := w.digits * Nat.pow 10 w.exponent.toNat * Nat.pow 2 unitExponent
    let d := Nat.pow 10 (-w.exponent).toNat
    match Magnitude.nearest? n d with
    | some magnitude => .finite w.negative magnitude
    | none => .infinite w.negative

end GoTasks.Decimal
