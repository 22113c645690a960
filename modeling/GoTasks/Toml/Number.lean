import GoTasks.Toml.Lexeme

/-!
# Numbers of TOML

Integers come in four bases and have to fit into 64 bits. Digits may be grouped by single
underscores. A number with a fraction or an exponent is a float and is read as the nearest
binary number; one that is too large to be finite is refused if it is positive.
-/

namespace GoTasks.Toml

/-- The digits at the start of a text that begins with one, without their underscores, and the
text after them. An underscore belongs to the digits only between two of them. -/
def digitRun (isDigit : Char → Bool) : List Char → List Char × List Char
  | '_' :: c :: rest =>
    if isDigit c then
      let (digits, rest) := digitRun isDigit rest
      (c :: digits, rest)
    else ([], '_' :: c :: rest)
  | c :: rest =>
    if isDigit c then
      let (digits, rest) := digitRun isDigit rest
      (c :: digits, rest)
    else ([], c :: rest)
  | [] => ([], [])

def digits (isDigit : Char → Bool) : Reader (List Char) := fun
  | c :: rest => if isDigit c then some (digitRun isDigit (c :: rest)) else none
  | [] => none

/-- The number that digits mean in a base. -/
def valueOf (base : Nat) (ds : List Char) : Nat :=
  ds.foldl (fun acc d => acc * base + (hexValue? d).getD 0) 0

/-- A sign, if there is one: whether it is a minus, and the text after it. -/
def signOf : List Char → Bool × List Char
  | '-' :: rest => (true, rest)
  | '+' :: rest => (false, rest)
  | cs => (false, cs)

/-- The digits of a decimal integer: a zero alone, or digits that do not start with zero. -/
def plainDigits : Reader (List Char) := fun
  | '0' :: rest => some (['0'], rest)
  | cs => digits Char.isDigit cs

/-- An integer with its sign, if it fits into 64 bits. -/
def fitted? (negative : Bool) (magnitude : Nat) : Option Int :=
  let n : Int := if negative then -magnitude else magnitude
  if Int64.minValue.toInt ≤ n ∧ n ≤ Int64.maxValue.toInt then some n else none

/-- An integer in a base other than ten, after its two-character mark. -/
def basedInteger (base : Nat) (isDigit : Char → Bool) : Reader Int := fun cs => do
  let (ds, rest) ← digits isDigit cs
  let n ← fitted? false (valueOf base ds)
  some (n, rest)

def integer : Reader Int := fun
  | '0' :: 'x' :: rest => basedInteger 16 (fun c => (hexValue? c).isSome) rest
  | '0' :: 'o' :: rest => basedInteger 8 (fun c => '0' ≤ c && c ≤ '7') rest
  | '0' :: 'b' :: rest => basedInteger 2 (fun c => c = '0' || c = '1') rest
  | cs => do
    let (negative, rest) := signOf cs
    let (ds, rest) ← plainDigits rest
    let n ← fitted? negative (valueOf 10 ds)
    some (n, rest)

/-- An exponent, if one follows. -/
def exponent? : List Char → Option (Int × List Char)
  | 'e' :: rest | 'E' :: rest => do
    let (negative, rest) := signOf rest
    let (ds, rest) ← digits Char.isDigit rest
    let n : Int := valueOf 10 ds
    some (if negative then -n else n, rest)
  | _ => none

/-- The digits of a fraction, if one follows. -/
def fraction? : List Char → Option (List Char × List Char)
  | '.' :: rest => digits Char.isDigit rest
  | _ => none

/-- The digits after the point and the exponent of a float; it has at least one of them. -/
def floatTail : Reader (List Char × Int) := fun cs =>
  match fraction? cs with
  | some (ds, rest) =>
    match exponent? rest with
    | some (e, rest) => some ((ds, e), rest)
    | none => some ((ds, 0), rest)
  | none => (exponent? cs).map fun (e, rest) => (([], e), rest)

/-- A float with digits. -/
def decimalFloat : Reader Decimal.Binary64 := fun cs => do
  let (negative, rest) := signOf cs
  let (whole, rest) ← plainDigits rest
  let ((fraction, e), rest) ← floatTail rest
  let written : Decimal.Written := ⟨negative, valueOf 10 (whole ++ fraction), e - fraction.length⟩
  match written.toBinary64 with
  | .infinite false => none
  | x => some (x, rest)

/-- A float without digits. -/
def namedFloat : Reader Decimal.Binary64 := fun cs =>
  match signOf cs with
  | (negative, 'i' :: 'n' :: 'f' :: rest) => some (.infinite negative, rest)
  | (_, 'n' :: 'a' :: 'n' :: rest) => some (.notANumber, rest)
  | _ => none

def float : Reader Decimal.Binary64 := fun cs =>
  (decimalFloat cs).or (namedFloat cs)

end GoTasks.Toml
