import GoTasks.Toml.Number

/-!
# Dates and times of TOML

A date, a time, or a date with a time, which may have an offset. Every field has a fixed number
of digits and a range. Only the form is checked: nothing that reads a document asks which day
was meant.
-/

namespace GoTasks.Toml

/-- A number of exactly `count` digits between two bounds. -/
def fixedDigits (count low high : Nat) : Reader Nat := fun cs =>
  let ds := cs.take count
  let n := valueOf 10 ds
  if ds.length = count && ds.all Char.isDigit && low ≤ n && n ≤ high then some (n, cs.drop count)
  else none

def skipChar? (c : Char) : List Char → Option (List Char)
  | d :: rest => if d = c then some rest else none
  | [] => none

def daysInMonth (year month : Nat) : Nat :=
  if month = 2 then
    if (year % 4 = 0 ∧ year % 100 ≠ 0) ∨ year % 400 = 0 then 29 else 28
  else if month = 4 ∨ month = 6 ∨ month = 9 ∨ month = 11 then 30
  else 31

def skipDate? (cs : List Char) : Option (List Char) := do
  let (year, rest) ← fixedDigits 4 0 9999 cs
  let rest ← skipChar? '-' rest
  let (month, rest) ← fixedDigits 2 1 12 rest
  let rest ← skipChar? '-' rest
  let (_, rest) ← fixedDigits 2 1 (daysInMonth year month) rest
  some rest

/-- The text after the fraction of a second, if there is one. -/
def skipFraction : List Char → List Char
  | '.' :: c :: rest => if c.isDigit then rest.dropWhile Char.isDigit else '.' :: c :: rest
  | cs => cs

/-- The text after a time of day. The last second of a minute may be a leap second. -/
def skipTime? (cs : List Char) : Option (List Char) := do
  let (_, rest) ← fixedDigits 2 0 23 cs
  let rest ← skipChar? ':' rest
  let (_, rest) ← fixedDigits 2 0 59 rest
  let rest ← skipChar? ':' rest
  let (_, rest) ← fixedDigits 2 0 60 rest
  some (skipFraction rest)

def skipHoursMinutes? (cs : List Char) : Option (List Char) := do
  let (_, rest) ← fixedDigits 2 0 23 cs
  let rest ← skipChar? ':' rest
  let (_, rest) ← fixedDigits 2 0 59 rest
  some rest

/-- The text after an offset from UTC, if there is one. -/
def skipOffset : List Char → List Char
  | 'Z' :: rest | 'z' :: rest => rest
  | '+' :: rest => (skipHoursMinutes? rest).getD ('+' :: rest)
  | '-' :: rest => (skipHoursMinutes? rest).getD ('-' :: rest)
  | cs => cs

/-- The text after the time of a date, if there is one. -/
def skipTimeOfDate (cs : List Char) : List Char :=
  match cs with
  | c :: rest =>
    if c = 'T' || c = 't' || c = ' ' then
      match skipTime? rest with
      | some rest => skipOffset rest
      | none => cs
    else cs
  | [] => cs

/-- The text after a date, a time, or both. -/
def skipDateTime? (cs : List Char) : Option (List Char) :=
  match skipDate? cs with
  | some rest => some (skipTimeOfDate rest)
  | none => skipTime? cs

end GoTasks.Toml
