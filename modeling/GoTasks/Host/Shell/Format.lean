import GoTasks.Host.Shell.Arithmetic
import GoTasks.Host.Shell.Fraction
import GoTasks.SystemError

/-!
# Formats

A format is text with conversions in it, each of which takes an argument and shows it as a
number, a character or a text. It is used again until the arguments are used up, and where an
argument is missing, an empty one is taken. What is wrong with an argument is told, and it is
shown as far as it makes sense; a conversion that is none ends everything.
-/

namespace GoTasks.Shell

/-- How wide or how precise something is shown. -/
inductive Measure where
  | unset
  | fixed (n : Nat)
  /-- As an argument says. -/
  | argument
  deriving DecidableEq, Repr

/-- A conversion, as it is written and as it is meant. -/
structure Conversion where
  flags : Raw
  width : Measure
  precision : Measure
  letter : Char
  written : Raw
  deriving DecidableEq, Repr

/-- A piece of a format. -/
inductive FormatItem where
  | character (c : Char)
  | conversion (c : Conversion)
  /-- A conversion without its last letter. -/
  | incomplete
  deriving DecidableEq, Repr

namespace FormatItem

def isFlag (c : Char) : Bool :=
  ['#', '-', '+', ' ', '0'].contains c

/-- The measure at the start of a text, and what follows it. -/
def measure (cs : Raw) : Measure × Raw :=
  match cs with
  | '*' :: rest => (.argument, rest)
  | _ => (.fixed (numberOf (cs.takeWhile (·.isDigit))), cs.dropWhile (·.isDigit))

/-- The conversion at the start of a text, after a percent sign, and what follows it. -/
def conversion? (cs : Raw) : Option (Conversion × Raw) :=
  let (width, rest) := measure (cs.dropWhile isFlag)
  let (precision, rest) := match rest with
    | '.' :: more => measure more
    | _ => (.unset, rest)
  match rest with
  | [] => none
  | letter :: left =>
    let written := '%' :: cs.take (cs.length - left.length)
    some (⟨cs.takeWhile isFlag, width, precision, letter, written⟩, left)

/-- The pieces of a format, of which there are at most so many. -/
def listWithin : Nat → Raw → List FormatItem
  | 0, _ => []
  | _ + 1, [] => []
  | limit + 1, '%' :: '%' :: rest => .character '%' :: listWithin limit rest
  | limit + 1, '%' :: rest =>
    match conversion? rest with
    | none => [.incomplete]
    | some (c, left) => .conversion c :: listWithin limit left
  | limit + 1, '\\' :: rest =>
    .character (escape rest).1 :: listWithin limit (rest.drop (escape rest).2)
  | limit + 1, c :: rest => .character c :: listWithin limit rest

def list (cs : Raw) : List FormatItem :=
  listWithin cs.length cs

end FormatItem

/-- A use of a format: what has been written, the arguments to come, what is wrong with those
that have been taken, and whether a conversion has ended everything. -/
structure Printing where
  written : Raw
  arguments : List Raw
  complaints : List Raw
  refused : Bool
  deriving DecidableEq, Repr

namespace Printing

def write (p : Printing) (cs : Raw) : Printing :=
  { p with written := p.written ++ cs }

def complain (p : Printing) (argument : Raw) (text : String) : Printing :=
  { p with complaints := p.complaints ++ [argument ++ rawText (": " ++ text)] }

/-- End everything with a complaint. -/
def refuse (p : Printing) (message : Raw) : Printing :=
  { p with complaints := p.complaints ++ [message], refused := true }

/-- Take an argument, or an empty one if there is none. -/
def take (p : Printing) : Raw × Printing :=
  (p.arguments.headD [], { p with arguments := p.arguments.tail })

/-- The nearest number that a conversion can show: one with a sign, or one without. A negative
number without a sign counts from the end, and none is near one that is too large for that. -/
def nearest (withSign : Bool) (n : Int) : Int :=
  let size : Int := 18446744073709551616
  if withSign then (Arithmetic.saturated n).toInt
  else if n.natAbs < size.natAbs then n % size
  else size - 1

def isShown (withSign : Bool) (n : Int) : Bool :=
  if withSign then nearest true n = n else n.natAbs < 18446744073709551616

/-- Take an argument as a number. After a quote, it is the byte that comes next. -/
def takeNumber (withSign : Bool) (p : Printing) : Int × Printing :=
  let (argument, p) := p.take
  match argument with
  | [] => (0, p)
  | c :: rest =>
    if c = '"' || c = '\'' then (((rest.headD '\x00').toNat : Int), p)
    else
      match Arithmetic.signed? argument with
      | none => (0, p.complain argument "expected numeric value")
      | some (n, left) =>
        if !left.isEmpty then
          (nearest withSign n, p.complain argument "not completely converted")
        else if isShown withSign n then (nearest withSign n, p)
        else (nearest withSign n, p.complain argument (errorName 34))

def takeFraction (p : Printing) : Decimal.Binary64 × Printing :=
  let zero : Decimal.Binary64 := .finite false ⟨0, 0⟩
  let (argument, p) := p.take
  match argument with
  | [] => (zero, p)
  | c :: rest =>
    if c = '"' || c = '\'' then
      let digits := (rest.headD '\x00').toNat
      ((Decimal.Written.mk false digits 0).toBinary64, p)
    else
      match Fraction.read? argument with
      | none => (zero, p.complain argument "expected numeric value")
      | some found =>
        if !found.rest.isEmpty then (found.value, p.complain argument "not completely converted")
        else if found.beyond then (found.value, p.complain argument (errorName 34))
        else (found.value, p)

/-- Take what a measure takes: nothing, or an argument. -/
def takeMeasure (m : Measure) (p : Printing) : Option Int × Printing :=
  match m with
  | .unset => (none, p)
  | .fixed n => (some n, p)
  | .argument =>
    let (n, p) := p.takeNumber true
    (some n, p)

end Printing

/-- How something is shown: its flags, how wide it is at least, and how precise. -/
structure Layout where
  left : Bool
  zeros : Bool
  plus : Bool
  blank : Bool
  alternative : Bool
  width : Nat
  precision? : Option Nat
  deriving DecidableEq, Repr

namespace Layout

/-- Text with as many characters before it as are missing. -/
def padded (c : Char) (width : Nat) (cs : Raw) : Raw :=
  List.replicate (width - cs.length) c ++ cs

/-- Text that is made as wide as it should be. -/
def placed (l : Layout) (cs : Raw) : Raw :=
  if l.left then cs ++ List.replicate (l.width - cs.length) ' ' else padded ' ' l.width cs

/-- Text of which only so much is shown as is asked for. -/
def text (l : Layout) (cs : Raw) : Raw :=
  l.placed (match l.precision? with
    | some n => cs.take n
    | none => cs)

def number (l : Layout) (sign digits : Raw) : Raw :=
  match l.precision? with
  | some n => l.placed (sign ++ padded '0' n digits)
  | none =>
    if l.zeros && !l.left then sign ++ padded '0' (l.width - sign.length) digits
    else l.placed (sign ++ digits)

/-- The digits of a number in a base; none for a zero that is shown without precision. -/
def digits (l : Layout) (base n : Nat) : Raw :=
  if n = 0 && l.precision? = some 0 then [] else Nat.toDigits base n

/-- What stands before the digits of a number. -/
def sign (l : Layout) (negative : Bool) : Raw :=
  if negative then ['-'] else if l.plus then ['+'] else if l.blank then [' '] else []

def signed (l : Layout) (n : Int) : Raw :=
  l.number (l.sign (n < 0)) (l.digits 10 n.natAbs)

/-- A number with a fraction, in the way that a letter stands for, with six places if nothing is
said about them. What is no finite number has no zeros before it. -/
def fraction (l : Layout) (letter : Char) (value : Decimal.Binary64) : Raw :=
  let places := l.precision?.getD 6
  let cased := fun (cs : Raw) => if letter.isUpper then cs.map Char.toUpper else cs
  let plain := { l with precision? := none }
  match value with
  | .finite negative m =>
    plain.number (l.sign negative)
      (cased (Fraction.shownMagnitude letter.toLower l.alternative places m))
  | .infinite negative =>
    { plain with zeros := false }.number (l.sign negative) (cased ['i', 'n', 'f'])
  | .notANumber => { plain with zeros := false }.number (l.sign false) (cased ['n', 'a', 'n'])

def octal (l : Layout) (n : Nat) : Raw :=
  let digits := l.digits 8 n
  let shown := match l.precision? with
    | some k => padded '0' k digits
    | none => digits
  if l.alternative && shown.head? ≠ some '0' then l.number [] ('0' :: shown)
  else l.number [] digits

def hexadecimal (l : Layout) (upper : Bool) (n : Nat) : Raw :=
  let cased := fun (cs : Raw) => if upper then cs.map Char.toUpper else cs
  let start := if l.alternative && n ≠ 0 then ['0', 'x'] else []
  l.number (cased start) (cased (l.digits 16 n))

/-- The layout that a conversion asks for. A negative width is one on the left, and a negative
precision is none. -/
def ofConversion (c : Conversion) (width? precision? : Option Int) : Layout where
  left := c.flags.contains '-' || width?.any (· < 0)
  zeros := c.flags.contains '0'
  plus := c.flags.contains '+'
  blank := c.flags.contains ' '
  alternative := c.flags.contains '#'
  width := (width?.getD 0).natAbs
  precision? := (precision?.filter (0 ≤ ·)).map Int.toNat

end Layout

namespace Printing

/-- Show an argument, and tell whether anything comes after it. -/
def convert (p : Printing) (c : Conversion) : Printing × Bool :=
  let (width?, p) := p.takeMeasure c.width
  let (precision?, p) := p.takeMeasure c.precision
  let layout := Layout.ofConversion c width? precision?
  let unsigned := fun (shown : Layout → Nat → Raw) =>
    let (n, p) := p.takeNumber false
    (p.write (shown layout n.toNat), true)
  match c.letter with
  | 'b' =>
    let (argument, p) := p.take
    let (cs, goesOn) := unescape argument
    (p.write (layout.text cs), goesOn)
  | 'c' =>
    let (argument, p) := p.take
    (p.write (layout.placed [argument.headD '\x00']), true)
  | 's' =>
    let (argument, p) := p.take
    (p.write (layout.text argument), true)
  | 'd' | 'i' =>
    let (n, p) := p.takeNumber true
    (p.write (layout.signed n), true)
  | 'f' | 'F' | 'e' | 'E' | 'g' | 'G' =>
    let (value, p) := p.takeFraction
    (p.write (layout.fraction c.letter value), true)
  | 'u' => unsigned fun l n => l.number [] (l.digits 10 n)
  | 'o' => unsigned Layout.octal
  | 'x' => unsigned fun l n => l.hexadecimal false n
  | 'X' => unsigned fun l n => l.hexadecimal true n
  | _ => (p.refuse (c.written ++ rawText ": invalid directive"), false)

/-- Use a format once, and tell whether anything comes after it. -/
def useOnce (p : Printing) : List FormatItem → Printing × Bool
  | [] => (p, true)
  | .character c :: items => (p.write [c]).useOnce items
  | .conversion c :: items =>
    let (p, goesOn) := p.convert c
    if goesOn then p.useOnce items else (p, false)
  | .incomplete :: _ => (p.refuse (rawText "missing format character"), false)

/-- Use a format again and again, at most so many times, until the arguments are used up. -/
def useAgain (items : List FormatItem) : Nat → Printing → Printing
  | 0, p => p
  | times + 1, p =>
    let (after, goesOn) := p.useOnce items
    if !goesOn || after.arguments.isEmpty || after.arguments.length = p.arguments.length then after
    else useAgain items times after

def ofFormat (format : Raw) (arguments : List Raw) : Printing :=
  useAgain (FormatItem.list format) (arguments.length + 1) ⟨[], arguments, [], false⟩

end Printing
end GoTasks.Shell
