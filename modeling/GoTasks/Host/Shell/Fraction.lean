import GoTasks.Decimal.Places
import GoTasks.Host.Shell.Escape

/-!
# Fractions

Numbers with a fraction, as the conversions of a format read and show them: with a point and so
many places, with a power of ten, or in the shorter of the two ways.
-/

namespace GoTasks.Shell

open Decimal (Binary64 Magnitude)

namespace Fraction

/-! ## Reading -/

/-- A number that has been read, the text after it, and whether it is too large or too small for
what it is kept as. -/
structure Found where
  value : Binary64
  rest : Raw
  beyond : Bool
  deriving DecidableEq, Repr

/-- Whether a text starts with a word, in capitals or not, and what follows it. -/
def afterWord? (word : String) (cs : Raw) : Option Raw :=
  if (cs.take word.length).map Char.toLower = word.toList then some (cs.drop word.length) else none

/-- The digits at the start of a text, with a point among them: those before it, those after it,
and what follows. -/
def digitParts (isDigit : Char → Bool) (cs : Raw) : Raw × Raw × Raw :=
  let whole := cs.takeWhile isDigit
  match cs.drop whole.length with
  | '.' :: rest => (whole, rest.takeWhile isDigit, rest.dropWhile isDigit)
  | rest => (whole, [], rest)

/-- The exponent at the start of a text, after one of two letters, and what follows it. Without
digits there is none. -/
def exponent (letter : Char) (cs : Raw) : Int × Raw :=
  match cs with
  | c :: rest =>
    let digits := if rest.head? = some '+' || rest.head? = some '-' then rest.tail else rest
    let shown := digits.takeWhile (·.isDigit)
    if c.toLower = letter && !shown.isEmpty then
      let n : Int := numberOf shown
      (if rest.head? = some '-' then -n else n, digits.drop shown.length)
    else (0, cs)
  | [] => (0, [])

/-- A finite number, or what stands for one that is too large. -/
def ofMagnitude? (negative : Bool) : Option Magnitude → Binary64
  | some m => .finite negative m
  | none => .infinite negative

/-- How far an exponent of two can be from zero for a number to be finite and not zero. -/
def binaryLimit : Int := 20000

def digitValue (c : Char) : Nat :=
  if c.isDigit then c.toNat - '0'.toNat else c.toLower.toNat - 'a'.toNat + 10

def isHexDigit (c : Char) : Bool :=
  c.isDigit || ('a' ≤ c.toLower && c.toLower ≤ 'f')

/-- A number in hexadecimal digits, after the sign for them. -/
def hexadecimal? (negative : Bool) (cs : Raw) : Option (Binary64 × Raw) :=
  let (whole, fraction, rest) := digitParts isHexDigit cs
  if (whole ++ fraction).isEmpty then none
  else
    let digits := (whole ++ fraction).foldl (fun n c => n * 16 + digitValue c) 0
    let (given, left) := exponent 'p' rest
    let power := given - 4 * fraction.length
    let value : Binary64 :=
      if digits = 0 || power < -binaryLimit then .finite negative ⟨0, 0⟩
      else if binaryLimit < power then .infinite negative
      else
        ofMagnitude? negative (Magnitude.nearest?
          (digits * Nat.pow 2 power.toNat * Nat.pow 2 Decimal.unitExponent)
          (Nat.pow 2 (-power).toNat))
    some (value, left)

/-- A number in decimal digits: whether it is zero, its value, and what follows it. -/
def decimal? (negative : Bool) (cs : Raw) : Option (Bool × Binary64 × Raw) :=
  let (whole, fraction, rest) := digitParts (·.isDigit) cs
  if (whole ++ fraction).isEmpty then none
  else
    let (given, left) := exponent 'e' rest
    let digits := numberOf (whole ++ fraction)
    let written : Decimal.Written := ⟨negative, digits, given - fraction.length⟩
    some (digits = 0, written.toBinary64, left)

/-- Whether a value is too large to be finite, or too small for all the bits of a significand. -/
def isExtreme : Binary64 → Bool
  | .finite _ m => m.significand < Nat.pow 2 52
  | _ => true

def read? (cs : Raw) : Option Found :=
  let cs := cs.dropWhile fun c => c = ' ' || ('\t' ≤ c && c ≤ '\x0d')
  let negative := cs.head? = some '-'
  let unsigned := if negative || cs.head? = some '+' then cs.tail else cs
  match afterWord? "infinity" unsigned, afterWord? "inf" unsigned, afterWord? "nan" unsigned with
  | some rest, _, _ | none, some rest, _ => some ⟨.infinite negative, rest, false⟩
  | _, _, some rest => some ⟨.notANumber, rest, false⟩
  | _, _, _ =>
    match (afterWord? "0x" unsigned).bind (hexadecimal? negative) with
    | some (value, rest) => some ⟨value, rest, value = .infinite negative⟩
    | none =>
      (decimal? negative unsigned).map fun (isZero, value, rest) =>
        ⟨value, rest, !isZero && isExtreme value⟩

/-! ## Showing -/

/-- A power of ten, as it is written after digits. -/
def powerText (letter : Char) (power : Int) : Raw :=
  letter :: (if power < 0 then '-' else '+') :: Decimal.digitsOf 2 power.natAbs

def withoutZeros (cs : Raw) : Raw :=
  if cs.contains '.' then
    let kept := (cs.reverse.dropWhile (· = '0')).reverse
    if kept.getLast? = some '.' then kept.dropLast else kept
  else cs

/-- A magnitude in one of the three ways, which a letter stands for. The point is kept if it is
`wanted`. -/
def shownMagnitude (way : Char) (wanted : Bool) (places : Nat) (m : Magnitude) : Raw :=
  let fixed := fun (places : Nat) => Decimal.pointed wanted places (m.fixed places)
  if way = 'f' then fixed places
  else if way = 'e' then
    let (digits, power) := m.scientific places
    Decimal.pointed wanted places digits ++ powerText 'e' power
  else
    let digitCount := max places 1
    let (digits, power) := m.scientific (digitCount - 1)
    let trimmed := fun (cs : Raw) => if wanted then cs else withoutZeros cs
    if -4 ≤ power && power < digitCount then
      trimmed (fixed ((digitCount : Int) - 1 - power).toNat)
    else trimmed (Decimal.pointed wanted (digitCount - 1) digits) ++ powerText 'e' power

end Fraction
end GoTasks.Shell
