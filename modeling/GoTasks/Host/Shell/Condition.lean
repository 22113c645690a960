import GoTasks.Host.FileAccess
import GoTasks.Host.Shell.Arithmetic
import GoTasks.Host.Shell.Pathname

/-!
# Conditions

A condition is a list of words: texts, operators on one of them or between two, and what joins
conditions. An operator that stands where a text is wanted is one. All parts of a condition are
evaluated, so a faulty part counts even if the others would decide.
-/

namespace GoTasks.Shell.Condition

/-- What an operator of a condition does. -/
inductive OperatorKind where
  | unary
  | binary
  | negation
  | conjunction
  | disjunction
  | opening
  | closing
  deriving DecidableEq, Repr

/-- The kind of the operator that a word is, if it is one. -/
def kind? (w : Raw) : Option OperatorKind :=
  match String.ofList w with
  | "!" => some .negation
  | "-a" => some .conjunction
  | "-o" => some .disjunction
  | "(" => some .opening
  | ")" => some .closing
  | name =>
    if ["-r", "-w", "-x", "-e", "-f", "-d", "-c", "-b", "-p", "-u", "-g", "-k", "-s", "-t", "-z",
        "-n", "-h", "-O", "-G", "-L", "-S"].contains name then some .unary
    else if ["=", "!=", "<", ">", "-eq", "-ne", "-ge", "-gt", "-le", "-lt", "-nt", "-ot",
        "-ef"].contains name then some .binary
    else none

/-- What a word is where it stands. -/
inductive Role where
  | nothing
  | operand
  | operator (kind : OperatorKind)
  deriving DecidableEq, Repr

/-- Whether an operator on one word is a text itself, for the words after it. -/
def isText : List Raw → Bool
  | [] => true
  | [_] => false
  | w :: _ => kind? w = some .binary

/-- What the first of some words is. -/
def role : List Raw → Role
  | [] => .nothing
  | w :: rest =>
    match kind? w with
    | some .unary => if isText rest then .operand else .operator .unary
    | some .opening => if rest.isEmpty then .operand else .operator .opening
    | some kind => .operator kind
    | none => .operand

/-- The number that a text is, with blanks around it. -/
def integer? (cs : Raw) : Option Int :=
  let trimmed := cs.dropWhile Arithmetic.isSpace
  let (sign, digits) := match trimmed with
    | '-' :: rest => (-1, rest)
    | '+' :: rest => (1, rest)
    | _ => ((1 : Int), trimmed)
  let number := sign * (numberOf (digits.takeWhile (·.isDigit)) : Int)
  let rest := digits.dropWhile (·.isDigit)
  if digits.head?.any (·.isDigit) && rest.all Arithmetic.isSpace &&
      (Arithmetic.saturated number).toInt = number then some number
  else none

/-- Where names are looked up. -/
structure Place where
  tree : FileTree
  cwd : Location
  deriving DecidableEq, Repr

namespace Place

/-- What a name leads to, with its location. -/
def resolve? (p : Place) (name : Raw) : Option (Location × FileEntry) :=
  (p.tree.resolve p.cwd ⟨bytesOf name⟩).toOption

def isLink (p : Place) (name : Raw) : Bool :=
  match p.tree.destination p.cwd false ⟨bytesOf name⟩ with
  | .ok (.existing loc) =>
    match p.tree.entry? loc with
    | some (.link _) => true
    | _ => false
  | _ => false

/-- Whether what a name leads to can be executed, or entered. -/
def isExecutable (p : Place) (name : Raw) : Bool :=
  match p.resolve? name with
  | some (_, .directory) => true
  | some (_, .file _ executable) => executable
  | _ => false

def isFilled (p : Place) (name : Raw) : Bool :=
  match p.resolve? name with
  | some (_, .directory) => true
  | some (_, .file content _) => content ≠ .data [] && content ≠ .device
  | _ => false

def isDevice (p : Place) (name : Raw) : Bool :=
  match p.resolve? name with
  | some (_, .file .device _) => true
  | _ => false

end Place

/-- The number that a word is, or the complaint that it is none. -/
def number (cs : Raw) : Except Raw Int :=
  match integer? cs with
  | some n => .ok n
  | none => .error (rawText "Illegal number: " ++ cs)

/-- Whether an operator holds of a word. No descriptor is a terminal. -/
def unaryHolds (p : Place) (operator w : Raw) : Except Raw Bool :=
  match String.ofList operator with
  | "-z" => .ok w.isEmpty
  | "-n" => .ok (!w.isEmpty)
  | "-t" => (number w).map fun _ => false
  | "-f" => .ok (p.tree.isFile p.cwd ⟨bytesOf w⟩)
  | "-d" => .ok (p.tree.isDirectory p.cwd ⟨bytesOf w⟩)
  | "-e" | "-r" | "-w" | "-O" | "-G" => .ok (p.resolve? w).isSome
  | "-x" => .ok (p.isExecutable w)
  | "-s" => .ok (p.isFilled w)
  | "-h" | "-L" => .ok (p.isLink w)
  | "-c" => .ok (p.isDevice w)
  | _ => .ok false

/-- Whether two words are numbers in a relation. -/
def compare (related : Int → Int → Bool) (a b : Raw) : Except Raw Bool := do
  return related (← number a) (← number b)

/-- Whether an operator holds between two words. No file is newer than another one. -/
def binaryHolds (p : Place) (operator a b : Raw) : Except Raw Bool :=
  match String.ofList operator with
  | "=" => .ok (a = b)
  | "!=" => .ok (a ≠ b)
  | "<" => .ok (!b.precedes a)
  | ">" => .ok (!a.precedes b)
  | "-eq" => compare (· = ·) a b
  | "-ne" => compare (· ≠ ·) a b
  | "-lt" => compare (· < ·) a b
  | "-le" => compare (· ≤ ·) a b
  | "-gt" => compare (· > ·) a b
  | "-ge" => compare (· ≥ ·) a b
  | "-ef" => .ok ((p.resolve? a).isSome && (p.resolve? a).map (·.1) = (p.resolve? b).map (·.1))
  | _ => .ok false

/-- A reader of words, which stands on one of them: whether what it reads holds, and the words
from the last one of it. -/
abbrev Reader := List Raw → Except Raw (Bool × List Raw)

mutual

def disjunction (p : Place) : Nat → Role → Reader
  | 0, _, words => .ok (false, words)
  | depth + 1, first, words => do
    let (holds, last) ← conjunction p depth first words
    if role last.tail = .operator .disjunction then
      let rest := last.drop 2
      let (others, last) ← disjunction p depth (role rest) rest
      return (holds || others, last)
    else return (holds, last)

def conjunction (p : Place) : Nat → Role → Reader
  | 0, _, words => .ok (false, words)
  | depth + 1, first, words => do
    let (holds, last) ← negation p depth first words
    if role last.tail = .operator .conjunction then
      let rest := last.drop 2
      let (others, last) ← conjunction p depth (role rest) rest
      return (holds && others, last)
    else return (holds, last)

def negation (p : Place) : Nat → Role → Reader
  | 0, _, words => .ok (false, words)
  | depth + 1, first, words => do
    if first = .operator .negation then
      let next := role words.tail
      let (holds, last) ← negation p depth next (if next = .nothing then words else words.tail)
      return (!holds, last)
    else primary p depth first words

/-- Read a condition that is not put together, or stands between parentheses. -/
def primary (p : Place) : Nat → Role → Reader
  | 0, _, words => .ok (false, words)
  | depth + 1, first, words => do
    match first with
    | .nothing => return (false, words)
    | .operator .opening =>
      let next := role words.tail
      if next = .operator .closing then return (false, words.tail)
      else
        let (holds, last) ← disjunction p depth next words.tail
        if role last.tail = .operator .closing then return (holds, last.tail)
        else .error (rawText "closing paren expected")
    | .operator .unary =>
      match words with
      | operator :: w :: rest => return (← unaryHolds p operator w, w :: rest)
      | _ => .error (words.headD [] ++ rawText ": argument expected")
    | _ =>
      match words with
      | a :: operator :: rest =>
        if role (operator :: rest) = .operator .binary then
          match rest with
          | b :: _ => return (← binaryHolds p operator a b, rest)
          | [] => .error (operator ++ rawText ": argument expected")
        else return (!a.isEmpty, words)
      | _ => return (!(words.headD []).isEmpty, words)

end

def whole (p : Place) (first : Role) (words : List Raw) : Except Raw Bool := do
  let (holds, last) ← disjunction p (4 * words.length + 4) first words
  match last with
  | w :: _ :: _ =>
    .error (if w.isEmpty then rawText "unexpected operator"
      else w ++ rawText ": unexpected operator")
  | _ => .ok holds

/-- Whether a condition holds, or what is wrong with it. With three or four words, parentheses
around them and a negation in front come first. -/
def holds (p : Place) : List Raw → Except Raw Bool
  | [] => .ok false
  | [a, b, c] =>
    if kind? b = some .binary then whole p .operand [a, b, c]
    else if a = ['('] && c = [')'] then whole p (role [b]) [b]
    else if a = ['!'] then (holds p [b, c]).map (!·)
    else whole p (role [a, b, c]) [a, b, c]
  | [a, b, c, d] =>
    if a = ['('] && d = [')'] then whole p (role [b, c]) [b, c]
    else if a = ['!'] then (holds p [b, c, d]).map (!·)
    else whole p (role [a, b, c, d]) [a, b, c, d]
  | words => whole p (role words) words

end GoTasks.Shell.Condition
