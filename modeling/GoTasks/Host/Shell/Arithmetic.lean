import GoTasks.Host.Shell.Expansion

/-!
# Arithmetic of the shell

An expression between double parentheses amounts to a number of 64 bits, and what is too large
wraps around. Names stand for the numbers that variables hold, and can be assigned to.
Comparisons amount to one or zero.

An expression is read and evaluated in one go, with the parameters as they change. What does not
count, like the right side of `0 &&`, is read all the same, but *idly*: nothing is looked up,
divided or assigned.
-/

namespace GoTasks.Shell.Arithmetic

/-- A piece of an expression. -/
inductive Lexeme where
  | number (n : Int64)
  | name (cs : Raw)
  | sign (cs : Raw)
  deriving DecidableEq, Repr

/-- Why an expression amounts to nothing. -/
inductive ArithmeticFault where
  /-- Something else should stand at a place of the expression. -/
  | expecting (what : String)
  | divisionByZero
  /-- A variable holds no number. -/
  | illegalNumber (value : Raw)
  /-- A variable cannot be changed. -/
  | constant (name : Raw)
  deriving DecidableEq, Repr

/-- The value of a digit, which can be a letter. -/
def digitValue (c : Char) : Nat :=
  if c.isDigit then c.toNat - '0'.toNat
  else if c.isAlpha then c.toLower.toNat - 'a'.toNat + 10
  else 36

def inBase (base : Nat) (digits : Raw) : Nat :=
  digits.foldl (fun n c => n * base + digitValue c) 0

def isDigitIn (base : Nat) (c : Char) : Bool :=
  digitValue c < base

/-- The number at the start of a text, and what follows it. A zero at its start makes it octal,
and a zero with an `x` hexadecimal. -/
def unsigned? (cs : Raw) : Option (Nat × Raw) :=
  let decimal := fun base (cs : Raw) =>
    (inBase base (cs.takeWhile (isDigitIn base)), cs.dropWhile (isDigitIn base))
  match cs with
  | '0' :: x :: d :: rest =>
    if (x = 'x' || x = 'X') && isDigitIn 16 d then some (decimal 16 (d :: rest))
    else some (decimal 8 cs)
  | '0' :: rest => some (decimal 8 ('0' :: rest))
  | c :: rest => if c.isDigit then some (decimal 10 (c :: rest)) else none
  | [] => none

def isSpace (c : Char) : Bool :=
  c = ' ' || ('\t' ≤ c && c ≤ '\x0d')

/-- The number with a sign at the start of a text, after blanks, and what follows it. -/
def signed? (cs : Raw) : Option (Int × Raw) :=
  match cs.dropWhile isSpace with
  | '-' :: rest => (unsigned? rest).map fun (n, left) => (-(n : Int), left)
  | '+' :: rest => (unsigned? rest).map fun (n, left) => ((n : Int), left)
  | rest => (unsigned? rest).map fun (n, left) => ((n : Int), left)

/-- The nearest number of 64 bits. -/
def saturated (n : Int) : Int64 :=
  Int64.ofInt (max Int64.minValue.toInt (min Int64.maxValue.toInt n))

def sign? (cs : Raw) : Option Raw :=
  (["<<=", ">>=", "<<", ">>", "<=", ">=", "==", "!=", "&&", "||", "*=", "/=", "%=", "+=", "-=",
    "&=", "^=", "|=", "=", "<", ">", "!", "&", "|", "*", "/", "%", "+", "-", "~", "^", "(", ")",
    "?", ":"].map String.toList).find? (·.isPrefixOf cs)

/-- The pieces of an expression, when it has at most so many. What no piece starts with is a sign
without a meaning. -/
def lexemesWithin : Nat → Raw → List Lexeme
  | 0, _ => []
  | limit + 1, cs =>
    match cs.dropWhile FieldBuilder.isBlank with
    | [] => []
    | c :: rest =>
      match unsigned? (c :: rest), sign? (c :: rest) with
      | some (n, left), _ => .number (saturated n) :: lexemesWithin limit left
      | none, some sign => .sign sign :: lexemesWithin limit ((c :: rest).drop sign.length)
      | none, none =>
        if isNameStart c then
          .name (c :: rest.takeWhile isNameRest) ::
            lexemesWithin limit (rest.dropWhile isNameRest)
        else .sign [c] :: lexemesWithin limit rest

/-- The number that a variable holds. One that holds nothing counts as zero. -/
def held (p : Parameters) (name : Raw) : Except ArithmeticFault Int64 :=
  let value := (p.lookUp name).getD []
  if value.isEmpty then .ok 0
  else
    match signed? value with
    | some (n, rest) =>
      if rest.all isSpace && (saturated n).toInt = n then .ok (saturated n)
      else .error (.illegalNumber value)
    | none => .error (.illegalNumber value)

/-- How loosely an operator binds that combines two numbers. -/
def looseness? (sign : Raw) : Option Nat :=
  [("*", 0), ("/", 0), ("%", 0), ("+", 1), ("-", 1), ("<<", 2), (">>", 2), ("<", 3), ("<=", 3),
    (">", 3), (">=", 3), ("==", 4), ("!=", 4), ("&", 5), ("^", 6), ("|", 7)].lookup
    (String.ofList sign)

/-- The looseness of an operator that binds less than all others. -/
def loosest : Nat := 8

/-- One for what holds, and zero for what does not. -/
def truth (holds : Bool) : Int64 :=
  if holds then 1 else 0

/-- What an operator makes of two numbers. Division goes towards zero, and not by zero. -/
def combined (sign : Raw) (a b : Int64) : Except ArithmeticFault Int64 :=
  match String.ofList sign with
  | "*" => .ok (a * b)
  | "/" => if b = 0 then .error .divisionByZero else .ok (a / b)
  | "%" => if b = 0 then .error .divisionByZero else .ok (a % b)
  | "+" => .ok (a + b)
  | "-" => .ok (a - b)
  | "<<" => .ok (a <<< b)
  | ">>" => .ok (a >>> b)
  | "<" => .ok (truth (a < b))
  | "<=" => .ok (truth (a ≤ b))
  | ">" => .ok (truth (b < a))
  | ">=" => .ok (truth (b ≤ a))
  | "==" => .ok (truth (a = b))
  | "!=" => .ok (truth (a ≠ b))
  | "&" => .ok (a &&& b)
  | "^" => .ok (a ^^^ b)
  | _ => .ok (a ||| b)

/-- An expression that is being read: the pieces to come, and the parameters as they are. -/
structure Calculation where
  pieces : List Lexeme
  parameters : Parameters
  deriving DecidableEq, Repr

/-- A step of a calculation, which can fail. -/
abbrev Step := StateT Calculation (Except ArithmeticFault)

/-- The next piece, which is not taken. -/
def next? : Step (Option Lexeme) := do
  return (← get).pieces.head?

def skip : Step Unit :=
  modify fun c => { c with pieces := c.pieces.tail }

/-- Fail since something else should come next. -/
def expecting {α : Type} (what : String) : Step α :=
  throw (.expecting what)

def store (name : Raw) (n : Int64) : Step Unit := do
  let c ← get
  if c.parameters.isConstant name then throw (.constant name)
  else
    set { c with parameters := c.parameters.setVariable name (toString n.toInt).toList false }

/-- The operator that an assignment combines the old value by, if there is an assignment of that
sign; nothing stands for taking the new value alone. -/
def assigning? (sign : Raw) : Option (Option Raw) :=
  if sign = ['='] then some none
  else if ["*=", "/=", "%=", "+=", "-=", "<<=", ">>=", "&=", "^=", "|="].contains
      (String.ofList sign) then some (some sign.dropLast)
  else none

mutual

/-- Read an assignment, or an expression without one. -/
def assignment (idle : Bool) : Nat → Step Int64
  | 0 => expecting "primary"
  | depth + 1 => do
    match (← get).pieces with
    | .name name :: .sign sign :: _ =>
      match assigning? sign with
      | some operator? => do
        skip
        skip
        let right ← assignment idle depth
        if idle then return right
        let n ← match operator? with
          | none => pure right
          | some operator => combined operator (← held (← get).parameters name) right
        store name n
        return n
      | none => conditional idle depth
    | _ => conditional idle depth

def conditional (idle : Bool) : Nat → Step Int64
  | 0 => expecting "primary"
  | depth + 1 => do
    let test ← disjunction idle depth
    if (← next?) = some (.sign ['?']) then
      skip
      let yes ← assignment (idle || test = 0) depth
      if (← next?) = some (.sign [':']) then
        skip
        let no ← conditional (idle || test ≠ 0) depth
        return if test ≠ 0 then yes else no
      else expecting "':'"
    else return test

def disjunction (idle : Bool) : Nat → Step Int64
  | 0 => expecting "primary"
  | depth + 1 => do
    let first ← conjunction idle depth
    if (← next?) = some (.sign ['|', '|']) then
      skip
      let second ← disjunction (idle || first ≠ 0) depth
      return truth (first ≠ 0 || second ≠ 0)
    else return first

def conjunction (idle : Bool) : Nat → Step Int64
  | 0 => expecting "primary"
  | depth + 1 => do
    let first ← operand idle depth
    let first ← operations idle loosest first depth
    if (← next?) = some (.sign ['&', '&']) then
      skip
      let second ← conjunction (idle || first = 0) depth
      return truth (first ≠ 0 && second ≠ 0)
    else return first

/-- Read what follows a first operand: operators that bind less loosely than a limit, with what
stands on their right. -/
def operations (idle : Bool) (limit : Nat) (first : Int64) : Nat → Step Int64
  | 0 => expecting "primary"
  | depth + 1 => do
    match ← next? with
    | some (.sign sign) =>
      match looseness? sign with
      | none => return first
      | some own =>
        if limit ≤ own then return first
        else
          skip
          let second ← operand idle depth
          let second ← operations idle own second depth
          let result ← if idle then pure second else combined sign first second
          operations idle limit result depth
    | _ => return first

def operand (idle : Bool) : Nat → Step Int64
  | 0 => expecting "primary"
  | depth + 1 => do
    match ← next? with
    | some (.number n) =>
      skip
      return n
    | some (.name name) =>
      skip
      if idle then return 0 else held (← get).parameters name
    | some (.sign sign) =>
      match String.ofList sign with
      | "(" => do
        skip
        let n ← assignment idle depth
        if (← next?) = some (.sign [')']) then
          skip
          return n
        else expecting "')'"
      | "+" => do
        skip
        operand idle depth
      | "-" => do
        skip
        return -(← operand idle depth)
      | "!" => do
        skip
        return truth ((← operand idle depth) = 0)
      | "~" => do
        skip
        return ~~~(← operand idle depth)
      | _ => expecting "primary"
    | none => expecting "primary"

end

/-- The number that an expression amounts to, and the parameters after it. -/
def value (p : Parameters) (cs : Raw) : Except ArithmeticFault (Int64 × Parameters) := do
  let pieces := lexemesWithin cs.length cs
  let (n, c) ← (assignment false (8 * pieces.length + 8)).run ⟨pieces, p⟩
  if c.pieces.isEmpty then .ok (n, c.parameters) else .error (.expecting "EOF")

def ArithmeticFault.message (expression : Raw) : ArithmeticFault → Raw
  | expecting what => inExpression ("expecting " ++ what)
  | divisionByZero => inExpression "division by zero"
  | illegalNumber value => rawText "Illegal number: " ++ value
  | constant name => name ++ rawText ": is read only"
where
  /-- What is said with the expression itself. -/
  inExpression (text : String) : Raw :=
    rawText ("arithmetic expression: " ++ text ++ ": \"") ++ expression ++ ['"']

end GoTasks.Shell.Arithmetic
