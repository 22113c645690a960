import GoTasks.Text.Alphanumeric
import GoTasks.Text.Blank

/-!
# Patterns of log filters

A log filter can ask that a field has a value, which is given as a truth value, as a number or
as a pattern. No event is ever held against such a value, but one that is neither of these makes
the filter unusable. So all there is to know of a pattern is whether it is well-formed, and that
is found by reading it once, with the groups that are open at hand.

A pattern has groups, classes, repetitions, alternatives and escapes. Nothing in it may depend on
the tables of Unicode: the classes of letters, digits and spaces and the bounds of words have to
be confined to ASCII by a flag, and so has matching without regard to case. Where it is so
confined, nothing may stand for a part of a character: neither a byte beyond ASCII, nor
everything but some ASCII characters.

A pattern is a tree, of which only the *height* is kept, since it must not be too high.
-/

namespace GoTasks.LogPattern

/-- How a part of a pattern is read. -/
structure Flags where
  /-- Letters stand for their counterparts, too. -/
  caseless : Bool
  /-- Characters beyond ASCII are taken for characters. -/
  unicode : Bool
  /-- Blanks and comments are skipped. -/
  spaced : Bool
  deriving DecidableEq, Repr

def Flags.initial : Flags := ⟨false, true, false⟩

/-- Whether characters can be found without the tables of Unicode, which are needed to find their
counterparts beyond ASCII. -/
def Flags.allowsCharacters (f : Flags) : Bool :=
  !(f.caseless && f.unicode)

/-- The characters that have a meaning of their own. -/
def isMeta (c : Char) : Bool :=
  ['\\', '.', '+', '*', '?', '(', ')', '|', '[', ']', '{', '}', '^', '$', '#', '&', '-',
    '~'].contains c

/-- Whether a character stands for itself after a backslash. -/
def isEscapable (c : Char) : Bool :=
  isMeta c || (c.toNat < 0x80 && !c.isAlphanum && c ≠ '<' && c ≠ '>')

/-- What an escape stands for. -/
inductive Escape where
  | character (c : Char)
  | several
  | place
  deriving DecidableEq, Repr

/-- What is left after blanks and comments, if they are skipped. -/
def skipSpace (f : Flags) (cs : List Char) : List Char :=
  if f.spaced then go cs false else cs
where
  /-- Skip, inside of a comment or outside. -/
  go : List Char → Bool → List Char
    | [], _ => []
    | c :: rest, inComment =>
      if inComment then go rest (c ≠ '\n')
      else if Text.isBlank c then go rest false
      else if c = '#' then go rest true
      else c :: rest

def hexValue? (c : Char) : Option Nat :=
  if c.isDigit then some (c.toNat - '0'.toNat)
  else if 'a' ≤ c.toLower ∧ c.toLower ≤ 'f' then some (c.toLower.toNat - 'a'.toNat + 10)
  else none

/-- The number that so many hexadecimal digits stand for, after the value of those before them, and
what is left. -/
def hexNumber? (f : Flags) : Nat → Nat → List Char → Option (Nat × List Char)
  | 0, value, cs => some (value, cs)
  | count + 1, value, cs =>
    match skipSpace f cs with
    | [] => none
    | c :: rest => do hexNumber? f count (value * 16 + (← hexValue? c)) rest

/-- The character that a number of hexadecimal digits stand for, and what is left. -/
def hexCharacter? (f : Flags) (count : Nat) (cs : List Char) : Option (Char × List Char) := do
  let (n, rest) ← hexNumber? f count 0 cs
  if n.isValidChar then some (Char.ofNat n, rest) else none

def controlCharacter? : Char → Option Char
  | 'a' => some '\x07'
  | 'f' => some '\x0c'
  | 't' => some '\t'
  | 'n' => some '\n'
  | 'r' => some '\x0d'
  | 'v' => some '\x0b'
  | _ => none

def isAscii (c : Char) : Bool :=
  c.toNat < 0x80

/-- Read an escape after its backslash. Two hexadecimal digits are a byte where characters beyond
ASCII are none. -/
def escape? (f : Flags) : List Char → Option (Escape × List Char)
  | [] => none
  | 'x' :: rest => do
    let (c, left) ← hexCharacter? f 2 rest
    if f.unicode || isAscii c then some (.character c, left) else none
  | 'u' :: rest => (hexCharacter? f 4 rest).map fun (c, left) => (.character c, left)
  | 'U' :: rest => (hexCharacter? f 8 rest).map fun (c, left) => (.character c, left)
  | c :: rest =>
    if isEscapable c then some (.character c, rest)
    else if ['d', 's', 'w'].contains c then if f.unicode then none else some (.several, rest)
    else if ['A', 'z'].contains c then some (.place, rest)
    else if ['b', 'B', '<', '>'].contains c then if f.unicode then none else some (.place, rest)
    else (controlCharacter? c).map fun d => (.character d, rest)

/-- The names of the classes that are written between colons. -/
def classNames : List String :=
  ["alnum", "alpha", "ascii", "blank", "cntrl", "digit", "graph", "lower", "print", "punct",
    "space", "upper", "word", "xdigit"]

/-- The height of a tree with parts of some heights. A single part is the tree itself. -/
def heightOf : List Nat → Nat
  | [] => 0
  | [h] => h
  | hs => hs.foldl max 0 + 1

/-! ## Classes -/

/-- A class that is written between colons: whether it is negated, and what is left after it. -/
def namedClass? : List Char → Option (Bool × List Char)
  | '[' :: ':' :: rest =>
    let negated := rest.head? = some '^'
    let rest := if negated then rest.tail else rest
    match rest.dropWhile (· ≠ ':') with
    | ':' :: ']' :: left =>
      if classNames.contains (String.ofList (rest.takeWhile (· ≠ ':'))) then some (negated, left)
      else none
    | _ => none
  | _ => none

def member? (f : Flags) (cs : List Char) : Option (Escape × List Char) := do
  let (found, rest) ← match cs with
    | [] => none
    | '\\' :: rest => escape? f rest
    | c :: rest => some (.character c, rest)
  match found with
  | .character c =>
    if f.allowsCharacters && (f.unicode || isAscii c) then some (found, rest) else none
  | .several => some (found, rest)
  | .place => none

/-- The next character after blanks, as a look ahead finds it: of a comment, it skips the sign, and
no more than blanks after it. -/
def peek (f : Flags) (cs : List Char) : Option Char :=
  if f.spaced then
    let shown := cs.dropWhile Text.isBlank
    let shown := if shown.head? = some '#' then shown.tail.dropWhile Text.isBlank else shown
    if shown.isEmpty then cs.head? else shown.head?
  else cs.head?

/-- Read a member of a class, or a range from one to another. -/
def range? (f : Flags) (cs : List Char) : Option (List Char) := do
  let (first, rest) ← member? f cs
  match skipSpace f rest with
  | [] => none
  | '-' :: more =>
    if peek f more = some ']' || peek f more = some '-' then some ('-' :: more)
    else
      let (last, left) ← member? f (skipSpace f more)
      match first, last with
      | .character a, .character b => if a ≤ b then some left else none
      | _, _ => none
  | left => some left

/-- Whether two characters combine what stands around them in a class. -/
def isCombination (a b : Char) : Bool :=
  a = b && ['&', '-', '~'].contains a

/-- A class that is being read: the height of what stands before the last combination, if there is
one, and those of the members after it. -/
structure ClassLevel where
  before? : Option Nat
  members : List Nat
  deriving DecidableEq, Repr

namespace ClassLevel

def height (l : ClassLevel) : Nat :=
  match l.before? with
  | none => heightOf l.members
  | some h => max h (heightOf l.members) + 1

def add (l : ClassLevel) (height : Nat) : ClassLevel :=
  { l with members := height :: l.members }

/-- The class after a combination. -/
def combine (l : ClassLevel) : ClassLevel :=
  ⟨some l.height, []⟩

end ClassLevel

/-- Read the minus signs at the start of a class, which stand for themselves. -/
def leadingSigns (f : Flags) : Nat → ClassLevel → List Char → ClassLevel × List Char
  | 0, level, cs => (level, cs)
  | limit + 1, level, cs =>
    match cs with
    | '-' :: rest => leadingSigns f limit (level.add 0) (skipSpace f rest)
    | _ => (level, cs)

/-- Read the opening of a class after its bracket: a sign that negates it, and the characters
that stand for themselves at the start only. -/
def openClass? (f : Flags) (cs : List Char) : Option (ClassLevel × List Char) :=
  match skipSpace f cs with
  | '^' :: rest => if f.unicode then members (skipSpace f rest) else none
  | rest => members rest
where
  /-- Read the characters at the start. -/
  members (cs : List Char) : Option (ClassLevel × List Char) :=
    match leadingSigns f cs.length ⟨none, []⟩ cs with
    | (⟨_, []⟩, ']' :: rest) => checked (⟨none, [0]⟩, skipSpace f rest)
    | opened => checked opened
  /-- Refuse characters where they cannot be found. -/
  checked (opened : ClassLevel × List Char) : Option (ClassLevel × List Char) :=
    if opened.1.members.isEmpty || f.allowsCharacters then some opened else none

/-- Read a class, which stands in others that are open, to the end of the outermost: its height,
and what is left. -/
def closeClass? (f : Flags) :
    Nat → ClassLevel → List ClassLevel → List Char → Option (Nat × List Char)
  | 0, _, _, _ => none
  | limit + 1, level, outer, cs =>
    match skipSpace f cs with
    | [] => none
    | ']' :: rest =>
      match outer with
      | [] => some (level.height + 1, rest)
      | l :: others => closeClass? f limit (l.add (level.height + 1)) others rest
    | '[' :: rest =>
      match namedClass? ('[' :: rest) with
      | some (negated, left) =>
        if f.allowsCharacters && (f.unicode || !negated) then
          closeClass? f limit (level.add 0) outer left
        else none
      | none => do
        let (inner, left) ← openClass? f rest
        closeClass? f limit inner (level :: outer) left
    | c :: d :: rest =>
      if isCombination c d then closeClass? f limit level.combine outer rest
      else do closeClass? f limit (level.add 0) outer (← range? f (c :: d :: rest))
    | [_] => none

/-! ## Groups -/

def isNameCharacter (first : Bool) (c : Char) : Bool :=
  let isNumber := c.isDigit || Text.inRanges Text.numberRanges c.toNat
  let isLetter := c.isAlpha || Text.inRanges Text.alphanumericRanges c.toNat && !isNumber
  c = '_' || isLetter || (!first && (isNumber || ['.', '[', ']'].contains c))

def groupName? (cs : List Char) : Option (List Char × List Char) :=
  let name := cs.takeWhile (· ≠ '>')
  match name, cs.drop name.length with
  | c :: more, _ :: rest =>
    if isNameCharacter true c && more.all (isNameCharacter false) then some (c :: more, rest)
    else none
  | _, _ => none

def Flags.switch (f : Flags) (on : Bool) : Char → Flags
  | 'i' => { f with caseless := on }
  | 'u' => { f with unicode := on }
  | 'x' => { f with spaced := on }
  | _ => f

/-- The flags that letters ask for: those after a minus sign are switched off. Each letter may be
given once, and something has to follow the sign. -/
def Flags.switched? (f : Flags) (letters : List Char) : Option Flags :=
  let on := letters.takeWhile (· ≠ '-')
  let off := (letters.dropWhile (· ≠ '-')).drop 1
  if (on ++ off).all ['i', 'm', 's', 'U', 'u', 'R', 'x'].contains && (on ++ off).Nodup &&
      !(off.isEmpty && letters.contains '-') then
    some (off.foldl (·.switch false) (on.foldl (·.switch true) f))
  else none

/-- A group that is being read, or the whole pattern: the heights of the alternatives before the
current one, and those of its parts, last first. -/
structure Level where
  alternatives : List Nat
  parts : List Nat
  deriving DecidableEq, Repr

namespace Level

def height (l : Level) : Nat :=
  heightOf (heightOf l.parts :: l.alternatives)

def add (l : Level) (height : Nat) : Level :=
  { l with parts := height :: l.parts }

/-- The group once its last part is repeated. -/
def repeated (l : Level) : Level :=
  { l with parts := l.parts.modifyHead (· + 1) }

/-- The group at the start of another alternative. -/
def turn (l : Level) : Level :=
  ⟨heightOf l.parts :: l.alternatives, []⟩

end Level

/-- Where the reader of a pattern stands. -/
structure State where
  flags : Flags
  level : Level
  /-- The groups that are open, innermost first, each with the flags it was in. -/
  outer : List (Flags × Level)
  /-- The names of the groups so far. -/
  names : List (List Char)
  /-- Whether something precedes that can be repeated. -/
  repeatable : Bool
  deriving DecidableEq, Repr

/-- The state after a part of some height, which can be repeated. -/
def State.add (s : State) (height : Nat) : State :=
  { s with level := s.level.add height, repeatable := true }

/-- Read the opening of a group after its parenthesis, or flags for what follows. -/
def group? (s : State) (cs : List Char) : Option (State × List Char) :=
  let inner :=
    { s with level := ⟨[], []⟩, outer := (s.flags, s.level) :: s.outer, repeatable := false }
  let named := fun (cs : List Char) => do
    let (name, rest) ← groupName? cs
    if s.names.contains name then none else some ({ inner with names := name :: s.names }, rest)
  match skipSpace s.flags cs with
  | '?' :: 'P' :: '<' :: rest => named rest
  | '?' :: '<' :: rest => named rest
  | '?' :: rest =>
    let letters := rest.takeWhile fun c => c ≠ ':' && c ≠ ')'
    match rest.drop letters.length with
    | ':' :: left => (s.flags.switched? letters).map fun f => ({ inner with flags := f }, left)
    | ')' :: left =>
      if letters.isEmpty then none
      else
        (s.flags.switched? letters).map fun f =>
          ({ s.add 0 with flags := f, repeatable := false }, left)
    | _ => none
  | rest => some (inner, rest)

def heightLimit : Nat := 250

/-- Whether a pattern is well-formed from where the reader stands. -/
def isWellFormedFrom : Nat → State → List Char → Bool
  | 0, _, _ => false
  | limit + 1, s, cs =>
    match skipSpace s.flags cs with
    | [] => s.outer.isEmpty && s.level.height ≤ heightLimit
    | '(' :: rest =>
      match group? s rest with
      | some (s, left) => isWellFormedFrom limit s left
      | none => false
    | ')' :: rest =>
      match s.outer with
      | [] => false
      | (flags, level) :: outer =>
        let around := { s with flags, level, outer }
        isWellFormedFrom limit (around.add (s.level.height + 1)) rest
    | '|' :: rest =>
      isWellFormedFrom limit { s with level := s.level.turn, repeatable := false } rest
    | '[' :: rest =>
      let read? := do
        let (opened, left) ← openClass? s.flags rest
        closeClass? s.flags (rest.length + 1) opened [] left
      match read? with
      | some (height, left) => isWellFormedFrom limit (s.add height) left
      | none => false
    | '\\' :: rest =>
      match escape? s.flags rest with
      | some (.character _, left) =>
        s.flags.allowsCharacters && isWellFormedFrom limit (s.add 0) left
      | some (_, left) => isWellFormedFrom limit (s.add 0) left
      | none => false
    | '{' :: _ => false
    | '.' :: rest => s.flags.unicode && isWellFormedFrom limit (s.add 0) rest
    | c :: rest =>
      if ['?', '*', '+'].contains c then
        s.repeatable &&
          isWellFormedFrom limit { s with level := s.level.repeated }
            (if rest.head? = some '?' then rest.tail else rest)
      else
        (['^', '$'].contains c || s.flags.allowsCharacters) &&
          isWellFormedFrom limit (s.add 0) rest

def isWellFormed (cs : List Char) : Bool :=
  isWellFormedFrom (cs.length + 1) ⟨.initial, ⟨[], []⟩, [], [], false⟩ cs

end GoTasks.LogPattern
