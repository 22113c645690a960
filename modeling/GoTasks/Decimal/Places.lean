import GoTasks.Decimal.Binary64

/-!
# Numbers with so many places

A magnitude is written with a number of digits that is given: so many after the point, or so many
in all before a power of ten. It is rounded once, to the nearest number that can be written so, of
two to the one whose last digit is even.
-/

namespace GoTasks.Decimal

/-- Digits in which a number is written, with zeros before them up to a width. -/
def digitsOf (width n : Nat) : List Char :=
  let digits := Nat.toDigits 10 n
  List.replicate (width - digits.length) '0' ++ digits

/-- Digits with a point before the last so many. Where there are none after it, the point is left
out unless it is wanted. -/
def pointed (wanted : Bool) (places : Nat) (digits : List Char) : List Char :=
  let whole := digits.take (digits.length - places)
  let fraction := digits.drop (digits.length - places)
  whole ++ (if fraction.isEmpty && !wanted then [] else '.' :: fraction)

namespace Magnitude

/-- The magnitude times a power of ten, as a fraction. -/
def scaled (m : Magnitude) (power : Int) : Nat × Nat :=
  (m.significand * Nat.pow 2 m.shift * Nat.pow 10 power.toNat,
    Nat.pow 2 unitExponent * Nat.pow 10 (-power).toNat)

/-- The magnitude in digits, of which so many stand after a point. -/
def fixed (m : Magnitude) (places : Nat) : List Char :=
  let (n, d) := m.scaled places
  digitsOf (places + 1) (nearestEven n d)

/-- The largest power of ten that a magnitude is not below, looked for downwards. -/
def leadingPower (m : Magnitude) : Nat → Int → Int
  | 0, power => power
  | limit + 1, power =>
    let (n, d) := m.scaled (-power)
    if d ≤ n then power else m.leadingPower limit (power - 1)

/-- The magnitude as digits, one of them before a point and so many after it, and the power of ten
that they are multiplied by. -/
def scientific (m : Magnitude) (places : Nat) : List Char × Int :=
  if m.significand = 0 then (List.replicate (places + 1) '0', 0)
  else
    let power := m.leadingPower 640 310
    let (n, d) := m.scaled (places - power)
    let rounded := nearestEven n d
    if Nat.pow 10 (places + 1) ≤ rounded then (digitsOf (places + 1) (rounded / 10), power + 1)
    else (digitsOf (places + 1) rounded, power)

end Magnitude
end GoTasks.Decimal
