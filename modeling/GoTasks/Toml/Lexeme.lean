import GoTasks.Toml.Node

/-!
# Words of TOML

A reader takes the text from some place on and gives what it read together with the text that
remains, or refuses. This module reads what stands between values, and keys and strings.
-/

namespace GoTasks.Toml

/-- A reader of `α`: the value and the remaining text, or a refusal. -/
abbrev Reader (α : Type) := List Char → Option (α × List Char)

def Reader.map {α β : Type} (f : α → β) (read : Reader α) : Reader β := fun cs =>
  (read cs).map fun (a, rest) => (f a, rest)

/-! ## Between values -/

def isGap (c : Char) : Bool :=
  c = ' ' || c = '\t'

def isBeyondAscii (c : Char) : Bool :=
  0x80 ≤ c.toNat

def isCommentChar (c : Char) : Bool :=
  c = '\t' || (0x20 ≤ c.toNat && c.toNat ≤ 0x7E) || isBeyondAscii c

def skipGap (cs : List Char) : List Char :=
  cs.dropWhile isGap

/-- The text after the end of a line, where there is one. -/
def skipNewline? : List Char → Option (List Char)
  | '\n' :: rest => some rest
  | '\r' :: '\n' :: rest => some rest
  | _ => none

/-- The text after a comment, where there is one. -/
def skipComment : List Char → List Char
  | '#' :: rest => rest.dropWhile isCommentChar
  | cs => cs

/-- The text after the rest of a line, which can only be blank or a comment. -/
def skipLineEnd? (cs : List Char) : Option (List Char) :=
  match skipComment (skipGap cs) with
  | [] => some []
  | rest => skipNewline? rest

/-- The text after blanks, comments and ends of lines. A comment lasts to the end of its line;
the flag says whether the text begins inside one. -/
def skipLines? : Bool → List Char → Option (List Char)
  | _, [] => some []
  | _, '\n' :: rest => skipLines? false rest
  | _, '\r' :: '\n' :: rest => skipLines? false rest
  | true, c :: rest => if isCommentChar c then skipLines? true rest else none
  | false, '#' :: rest => skipLines? true rest
  | false, c :: rest => if isGap c then skipLines? false rest else some (c :: rest)

/-! ## Strings -/

def hexValue? (c : Char) : Option Nat :=
  if '0' ≤ c ∧ c ≤ '9' then some (c.toNat - '0'.toNat)
  else if 'a' ≤ c ∧ c ≤ 'f' then some (c.toNat - 'a'.toNat + 10)
  else if 'A' ≤ c ∧ c ≤ 'F' then some (c.toNat - 'A'.toNat + 10)
  else none

/-- The character whose code point is given by a number of hexadecimal digits. -/
def codePoint (count : Nat) : Reader Char := fun cs => do
  let digits ← (cs.take count).mapM hexValue?
  if digits.length = count then
    let n := digits.foldl (fun acc d => acc * 16 + d) 0
    if n.isValidChar then some (Char.ofNat n, cs.drop count) else none
  else none

/-- The character that an escape stands for, after its backslash. -/
def escape : Reader Char
  | 'b' :: rest => some ('\x08', rest)
  | 't' :: rest => some ('\t', rest)
  | 'n' :: rest => some ('\n', rest)
  | 'f' :: rest => some ('\x0c', rest)
  | 'r' :: rest => some ('\r', rest)
  | '"' :: rest => some ('"', rest)
  | '\\' :: rest => some ('\\', rest)
  | 'u' :: rest => codePoint 4 rest
  | 'U' :: rest => codePoint 8 rest
  | _ => none

/-- Characters that stand for themselves in a string with escapes. -/
def isBasicChar (c : Char) : Bool :=
  isCommentChar c && c ≠ '"' && c ≠ '\\'

/-- Characters that a string without escapes can hold. -/
def isLiteralChar (c : Char) : Bool :=
  isCommentChar c && c ≠ '\''

def prepend (c : Char) : Option (List Char × List Char) → Option (List Char × List Char) :=
  Option.map fun (cs, rest) => (c :: cs, rest)

/-- The rest of a string with escapes, on one line. -/
def basicRest : Nat → Reader (List Char)
  | 0, _ => none
  | _ + 1, '"' :: rest => some ([], rest)
  | fuel + 1, '\\' :: rest => do
    let (c, rest) ← escape rest
    prepend c (basicRest fuel rest)
  | fuel + 1, c :: rest => if isBasicChar c then prepend c (basicRest fuel rest) else none
  | _ + 1, [] => none

/-- The rest of a string without escapes, on one line. -/
def literalRest (cs : List Char) : Option (List Char × List Char) :=
  match cs.dropWhile isLiteralChar with
  | '\'' :: rest => some (cs.takeWhile isLiteralChar, rest)
  | _ => none

/-- Three quotes end a string of several lines; up to two more before them belong to it. -/
def closingQuotes (quote : Char) : List Char → List Char × List Char
  | a :: b :: rest =>
    if a = quote then
      if b = quote then ([quote, quote], rest) else ([quote], b :: rest)
    else ([], a :: b :: rest)
  | [a] => if a = quote then ([quote], []) else ([], [a])
  | [] => ([], [])

/-- The text after a line that ends in a backslash, and after all blanks at the start of what
follows. -/
def skipFold? (cs : List Char) : Option (List Char) := do
  let rest ← skipNewline? (skipGap cs)
  some (skipBlankLines rest.length rest)
where
  /-- The text after blanks and ends of lines. -/
  skipBlankLines : Nat → List Char → List Char
    | 0, cs => cs
    | fuel + 1, cs =>
      match skipNewline? (skipGap cs) with
      | some rest => skipBlankLines fuel rest
      | none => skipGap cs

/-- The rest of a string with escapes, over several lines. -/
def multiBasicRest : Nat → Reader (List Char)
  | 0, _ => none
  | _ + 1, '"' :: '"' :: '"' :: rest => some (closingQuotes '"' rest)
  | fuel + 1, '"' :: rest => prepend '"' (multiBasicRest fuel rest)
  | fuel + 1, '\\' :: rest =>
    match skipFold? rest with
    | some rest => multiBasicRest fuel rest
    | none => do
      let (c, rest) ← escape rest
      prepend c (multiBasicRest fuel rest)
  | fuel + 1, '\n' :: rest => prepend '\n' (multiBasicRest fuel rest)
  | fuel + 1, '\r' :: '\n' :: rest => prepend '\n' (multiBasicRest fuel rest)
  | fuel + 1, c :: rest => if isBasicChar c then prepend c (multiBasicRest fuel rest) else none
  | _ + 1, [] => none

/-- The rest of a string without escapes, over several lines. -/
def multiLiteralRest : Nat → Reader (List Char)
  | 0, _ => none
  | _ + 1, '\'' :: '\'' :: '\'' :: rest => some (closingQuotes '\'' rest)
  | fuel + 1, '\'' :: rest => prepend '\'' (multiLiteralRest fuel rest)
  | fuel + 1, '\n' :: rest => prepend '\n' (multiLiteralRest fuel rest)
  | fuel + 1, '\r' :: '\n' :: rest => prepend '\n' (multiLiteralRest fuel rest)
  | fuel + 1, c :: rest => if isLiteralChar c then prepend c (multiLiteralRest fuel rest) else none
  | _ + 1, [] => none

/-- The text after an end of line that directly follows the opening of a string. -/
def skipFirstNewline (cs : List Char) : List Char :=
  (skipNewline? cs).getD cs

def lineString : Reader String := fun
  | '"' :: rest => (basicRest (rest.length + 1) rest).map fun (cs, r) => (String.ofList cs, r)
  | '\'' :: rest => (literalRest rest).map fun (cs, r) => (String.ofList cs, r)
  | _ => none

/-- A string of any form. -/
def anyString : Reader String := fun
  | '"' :: '"' :: '"' :: rest =>
    let body := skipFirstNewline rest
    (multiBasicRest (body.length + 1) body).map fun (cs, r) => (String.ofList cs, r)
  | '\'' :: '\'' :: '\'' :: rest =>
    let body := skipFirstNewline rest
    (multiLiteralRest (body.length + 1) body).map fun (cs, r) => (String.ofList cs, r)
  | cs => lineString cs

/-! ## Keys -/

/-- Characters of a key that is written without quotes. -/
def isBareKeyChar (c : Char) : Bool :=
  c.isAlphanum || c = '_' || c = '-'

def keyName : Reader String := fun cs =>
  match cs with
  | '"' :: _ => lineString cs
  | '\'' :: _ => lineString cs
  | _ =>
    match cs.takeWhile isBareKeyChar with
    | [] => none
    | name => some (String.ofList name, cs.dropWhile isBareKeyChar)

def keyPart : Reader Key := fun cs => do
  let (name, rest) ← keyName cs
  some (⟨name, .between cs rest⟩, rest)

/-- The parts of a key, with dots between them and blanks around them. -/
def keyParts : Nat → Reader (List Key)
  | 0, _ => none
  | fuel + 1, cs => do
    let (part, rest) ← keyPart (skipGap cs)
    match skipGap rest with
    | '.' :: rest => do
      let (parts, rest) ← keyParts fuel rest
      some (part :: parts, rest)
    | rest => some ([part], rest)

/-- Keys of this many parts are refused. -/
def keyLimit : Nat := 80

/-- A key of one or more parts. -/
def key : Reader (List Key) := fun cs => do
  let (parts, rest) ← keyParts (cs.length + 1) cs
  if parts.length < keyLimit then some (parts, rest) else none

end GoTasks.Toml
