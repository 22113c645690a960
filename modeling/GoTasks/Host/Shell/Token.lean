import GoTasks.Text.Utf8

/-!
# Shell tokens

A script is read byte by byte, and each byte is a character of its own: the shell knows
nothing of encodings. A scanner cuts it into words, operators and line ends. A word keeps its
parts apart, because a quoted part means something else than the same text without quotes.

The scanner is a fold over the characters. It never looks ahead: a character that ends what
came before it is read afresh. What a word encloses, like a script between parentheses, is
scanned on a level of its own, which lies on top of the level it interrupts. From it only the
text remains, since what is enclosed is read again when it is needed.
-/

namespace GoTasks.Shell

/-- A byte string as the shell sees it, with one character for each byte. -/
abbrev Raw := List Char

/-- A byte string, seen by the shell. -/
def raw (bytes : Bytes) : Raw :=
  bytes.map fun b => Char.ofNat b.toNat

def bytesOf (cs : Raw) : Bytes :=
  cs.map fun c => UInt8.ofNat c.toNat

/-- A text, seen by the shell. -/
def rawText (s : String) : Raw :=
  raw (Text.Utf8.encode s)

/-- What is taken in place of a parameter's value. The texts are written like words. -/
inductive Modifier where
  | plain
  /-- A text in place of a parameter that is not set, or that is empty if `emptyToo`. -/
  | unlessSet (emptyToo : Bool) (text : Raw)
  /-- A text in place of a parameter that is set, and not empty if `emptyToo`. -/
  | ifSet (emptyToo : Bool) (text : Raw)
  /-- Like `unlessSet`, and the parameter keeps the text. -/
  | assigned (emptyToo : Bool) (text : Raw)
  /-- The parameter has to be set, or else the text is the complaint. -/
  | required (emptyToo : Bool) (text : Raw)
  /-- The value without a start that fits a pattern. -/
  | withoutStart (longest : Bool) (pattern : Raw)
  /-- The value without an end that fits a pattern. -/
  | withoutEnd (longest : Bool) (pattern : Raw)
  /-- The number of bytes of the value. -/
  | length
  /-- Nothing that has a meaning. -/
  | malformed
  deriving DecidableEq, Repr

/-- A part of a word: text, or something to be replaced by a value. -/
inductive WordPart where
  | text (cs : Raw) (quoted : Bool)
  | parameter (name : Raw) (modifier : Modifier) (quoted : Bool)
  /-- What a script writes that starts on a line and stands between parentheses or backquotes. -/
  | substitution (line : Nat) (script : Raw) (parenthesized quoted : Bool)
  /-- What an expression amounts to. -/
  | arithmetic (expression : Raw) (quoted : Bool)
  /-- Lines of a script, from one with a number on, that are to be read as input, in which values
  are put. -/
  | document (line : Nat) (lines : Raw)
  deriving DecidableEq, Repr

def WordPart.isQuoted : WordPart → Bool
  | text _ quoted | parameter _ _ quoted | substitution _ _ _ quoted | arithmetic _ quoted => quoted
  | document _ _ => true

/-- A word, as its parts in order. -/
abbrev Word := List WordPart

/-- A piece of a script. A descriptor is a digit directly before a redirection. -/
inductive Token where
  | word (w : Word)
  | descriptor (number : Nat)
  | operator (cs : Raw)
  /-- The place of a document, given by its number, whose lines come later. -/
  | document (number : Nat)
  | lineEnd
  | scriptEnd
  /-- Where the script cannot be read any further, and why. -/
  | fault (message : Raw)
  deriving DecidableEq, Repr

/-- A token with the number of its line. -/
structure PlacedToken where
  token : Token
  line : Nat
  deriving DecidableEq, Repr

def isNameStart (c : Char) : Bool :=
  c.isAlpha || c = '_'

def isNameRest (c : Char) : Bool :=
  c.isAlphanum || c = '_'

def isName (cs : Raw) : Bool :=
  match cs with
  | [] => false
  | c :: rest => isNameStart c && rest.all isNameRest

def isSpecialParameter (c : Char) : Bool :=
  c.isDigit || ['*', '@', '#', '?', '$', '!', '-'].contains c

/-- The character that encloses a script whose output is wanted. -/
def backquote : Char := Char.ofNat 0x60

/-- Whether a character is an operator, or the start of one. -/
def isOperator (c : Char) : Bool :=
  [';', '&', '|', '<', '>', '(', ')'].contains c

def isLongOperator (cs : Raw) : Bool :=
  [";;", "&&", "||", ">>", ">&", ">|", "<<", "<<-", "<&", "<>"].contains (String.ofList cs)

def numberOf (digits : Raw) : Nat :=
  digits.foldl (fun n c => n * 10 + (c.toNat - '0'.toNat)) 0

/-- The text of a word that is written without quotes and parameters. -/
def Word.bare? : Word → Option Raw
  | [.text cs false] => some cs
  | _ => none

/-- The text of a token that is written without quotes and parameters. -/
def bareWord? (t : PlacedToken) : Option String :=
  match t.token with
  | .word w => w.bare?.map String.ofList
  | _ => none

/-- The words that start, go on or end a command, where a command can start. -/
def keywords : List String :=
  ["!", "case", "do", "done", "elif", "else", "esac", "fi", "for", "if", "in", "then", "until",
    "while", "\x7b", "\x7d"]

namespace Scanner

/-- What a level is scanned for. -/
inductive Enclosure where
  | script
  /-- A script between parentheses. -/
  | substitution
  /-- What follows a parameter between braces. -/
  | braces
  /-- An expression between double parentheses. -/
  | arithmetic
  /-- Lines that are to be read as input. -/
  | document
  deriving DecidableEq, Repr

/-- What the scanner is in the middle of. -/
inductive Mode where
  | plain
  | singleQuoted
  | doubleQuoted
  | escaped
  | escapedInQuotes
  | dollar (quoted : Bool)
  | name (quoted : Bool) (read : Raw)
  /-- After a dollar sign and a parenthesis. -/
  | parenthesis (quoted : Bool)
  | backquoted (quoted escaped : Bool) (read : Raw)
  | operator (read : Raw)
  | comment
  /-- In a document, with its lines so far and the current one. -/
  | document (lines line : Raw)
  deriving DecidableEq, Repr

/-- What is open on a level. -/
inductive Opening where
  | parenthesis
  /-- A choice, whose clauses have closing parentheses only. -/
  | choice
  /-- The first of the two parentheses that end an expression. -/
  | closing
  deriving DecidableEq, Repr

/-- A document that has been announced: its last line, whether values are put into it, and
whether tabs at the start of lines are dropped. -/
structure Announcement where
  lastLine : Raw
  replaced : Bool
  tabsDropped : Bool
  deriving DecidableEq, Repr

/-- One level of a scanner. -/
structure Level where
  enclosure : Enclosure
  /-- The line it starts on. -/
  line : Nat
  /-- Whether all of it stands between double quotes. -/
  quoted : Bool
  mode : Mode
  word? : Option Word
  /-- The tokens so far, last first. -/
  found : List PlacedToken
  /-- What is open, innermost first. -/
  opened : List Opening
  /-- Whether double quotes are open within a level that is quoted anyway. -/
  requoted : Bool
  /-- Whether the next word announces a document, and whether it drops tabs. -/
  announcing? : Option Bool
  /-- The documents that come after the end of the line. -/
  announced : List Announcement
  /-- The documents that are complete. -/
  documents : List Word
  /-- The text so far, last character first. -/
  read : Raw
  deriving DecidableEq, Repr

/-- The mode inside or outside of double quotes. -/
def around (quoted : Bool) : Mode :=
  if quoted then .doubleQuoted else .plain

def Level.start (enclosure : Enclosure) (line : Nat) (quoted : Bool) (read : Raw) : Level :=
  let inQuotes := match enclosure with
    | .script | .substitution => false
    | .braces => quoted
    | .arithmetic | .document => true
  ⟨enclosure, line, quoted, around inQuotes, none, [], [], false, none, [], [], read⟩

end Scanner

/-- The state of a scanner: the level it is on, those that it interrupts, and the line. -/
structure Scanner where
  level : Scanner.Level
  outer : List Scanner.Level
  line : Nat
  deriving DecidableEq, Repr

namespace Scanner

def start (enclosure : Enclosure) (quoted : Bool) (line : Nat) : Scanner :=
  ⟨.start enclosure line quoted [], [], line⟩

def turnTo (s : Scanner) (mode : Mode) : Scanner :=
  { s with level := { s.level with mode } }

def emit (s : Scanner) (token : Token) : Scanner :=
  { s with level := { s.level with found := ⟨token, s.line⟩ :: s.level.found } }

/-- Whether a command can start after a token. -/
def endsCommand : Token → Bool
  | .operator cs => cs.head? ≠ some '<' && cs.head? ≠ some '>'
  | .lineEnd => true
  | .word w =>
    (w.bare?.map fun cs =>
      ["if", "then", "else", "elif", "do", "while", "until", "\x7b", "!", "in"].contains
        (String.ofList cs)).getD false
  | _ => false

/-- Take note of a word that opens or closes a choice. -/
def noteWord (s : Scanner) (w : Word) : Scanner :=
  if s.level.found.head?.all (endsCommand ·.token) then
    match w.bare?, s.level.opened with
    | some ['c', 'a', 's', 'e'], opened =>
      { s with level := { s.level with opened := .choice :: opened } }
    | some ['e', 's', 'a', 'c'], .choice :: opened =>
      { s with level := { s.level with opened } }
    | _, _ => s
  else s

/-- The text of a word, taken as it is written but for quotes. -/
def writtenText (w : Word) : Raw :=
  w.flatMap fun
    | .text cs _ => cs
    | .parameter name _ _ => '$' :: name
    | _ => []

/-- Announce a document by the word that is its last line. -/
def announce (s : Scanner) (tabsDropped : Bool) (w : Word) : Scanner :=
  let replaced := w.all fun
    | .text _ quoted => !quoted
    | _ => true
  let number := s.level.documents.length + s.level.announced.length
  let announced := s.level.announced ++ [⟨writtenText w, replaced, tabsDropped⟩]
  { s.emit (.document number) with
    level := { (s.emit (.document number)).level with announced, announcing? := none } }

def endWord (s : Scanner) : Scanner :=
  match s.level.word? with
  | none => s
  | some w =>
    let s := { s with level := { s.level with word? := none } }
    match s.level.announcing? with
    | some tabsDropped => s.announce tabsDropped w
    | none => (s.noteWord w).emit (.word w)

/-- A word with a part added. Between quotes, empty text before a part says nothing. -/
def addToWord (part : WordPart) (w : Word) : Word :=
  if w.getLast? = some (.text [] true) && part.isQuoted then w.dropLast ++ [part]
  else w ++ [part]

/-- Start a word, unless the scanner is in one, and add a part to it. -/
def addPart (s : Scanner) (part : WordPart) : Scanner :=
  { s with level := { s.level with word? := some (addToWord part (s.level.word?.getD [])) } }

/-- A word with text added: to its last part, if that is text with the same quotes. -/
def extendWord (cs : Raw) (quoted : Bool) (w : Word) : Word :=
  match w.getLast? with
  | some (.text before q) =>
    if q = quoted then w.dropLast ++ [.text (before ++ cs) quoted] else w ++ [.text cs quoted]
  | _ => w ++ [.text cs quoted]

/-- Add text to the word the scanner is in, which it starts if need be. -/
def addText (s : Scanner) (cs : Raw) (quoted : Bool) : Scanner :=
  { s with level := { s.level with word? := some (extendWord cs quoted (s.level.word?.getD [])) } }

/-- End the word before a redirection. If it is a digit, it is a descriptor. -/
def endDescriptor (s : Scanner) : Scanner :=
  match s.level.word?.bind Word.bare? with
  | some [c] =>
    if c.isDigit then
      { s with level := { s.level with word? := none } }.emit (.descriptor (numberOf [c]))
    else s.endWord
  | _ => s.endWord

/-- Add an operator. Some announce a document. -/
def emitOperator (s : Scanner) (cs : Raw) : Scanner :=
  let announcing? := if cs = ['<', '<'] then some false
    else if cs = ['<', '<', '-'] then some true
    else none
  let s := s.emit (.operator cs)
  { s.turnTo .plain with level := { (s.turnTo .plain).level with announcing? } }

/-- Interrupt a level by another one. -/
def enter (s : Scanner) (enclosure : Enclosure) (quoted : Bool) (read : Raw) : Scanner :=
  { s with level := .start enclosure s.line quoted read, outer := s.level :: s.outer }

def modifier : Raw → Modifier
  | [] => .plain
  | ':' :: '-' :: text => .unlessSet true text
  | '-' :: text => .unlessSet false text
  | ':' :: '+' :: text => .ifSet true text
  | '+' :: text => .ifSet false text
  | ':' :: '=' :: text => .assigned true text
  | '=' :: text => .assigned false text
  | ':' :: '?' :: text => .required true text
  | '?' :: text => .required false text
  | '#' :: '#' :: pattern => .withoutStart true pattern
  | '#' :: pattern => .withoutStart false pattern
  | '%' :: '%' :: pattern => .withoutEnd true pattern
  | '%' :: pattern => .withoutEnd false pattern
  | _ => .malformed

/-- The name of a parameter at the start of a text, and what follows it. -/
def splitName : Raw → Raw × Raw
  | [] => ([], [])
  | c :: rest =>
    if isNameStart c then (c :: rest.takeWhile isNameRest, rest.dropWhile isNameRest)
    else if c.isDigit then (c :: rest.takeWhile (·.isDigit), rest.dropWhile (·.isDigit))
    else if isSpecialParameter c then ([c], rest)
    else ([], c :: rest)

/-- The parameter that is written within braces. -/
def inBraces (cs : Raw) (quoted : Bool) : WordPart :=
  let named := fun (cs : Raw) =>
    let (name, rest) := splitName cs
    if name.isEmpty then WordPart.parameter [] .malformed quoted
    else .parameter name (modifier rest) quoted
  match cs with
  | '#' :: c :: rest =>
    let (name, left) := splitName (c :: rest)
    if !name.isEmpty && left.isEmpty then .parameter name .length quoted else named cs
  | _ => named cs

/-- Whether a text between braces, of which the start is given, is a pattern. -/
def isPatternText (read : Raw) : Bool :=
  let rest := (splitName read).2
  rest.head? = some '%' || rest.head? = some '#'

/-- Leave a level, of which only a part of a word remains. -/
def leave (s : Scanner) (part : Raw → Bool → WordPart) (closing : Nat) : Scanner :=
  match s.outer with
  | [] => s
  | below :: others =>
    let text := (s.level.read.drop closing).reverse
    let s' : Scanner := { s with level := below, outer := others }
    (s'.addPart (part text s.level.quoted)).turnTo (around s.level.quoted)

/-- Whether a character ends the level that the scanner is on, when no quotes are open. -/
def closes (s : Scanner) (c : Char) : Bool :=
  !s.outer.isEmpty && s.level.opened.isEmpty &&
    match s.level.enclosure with
    | .substitution => c = ')'
    | .braces => c = '}' && !s.level.requoted
    | _ => false

def stepClosing (s : Scanner) : Scanner :=
  match s.level.enclosure with
  | .braces => s.leave inBraces 1
  | _ => s.leave (.substitution s.level.line · true) 1

def stepParenthesis (s : Scanner) (c : Char) : Scanner :=
  let opened := if c = '(' then .parenthesis :: s.level.opened
    else match s.level.opened with
      | .parenthesis :: others => others
      | others => others
  { s.emitOperator [c] with level := { (s.emitOperator [c]).level with opened } }

/-- Read the end of a line, after which the documents of the line come. -/
def stepLineEnd (s : Scanner) : Scanner :=
  let ended := s.endWord.emit .lineEnd
  if ended.level.announced.isEmpty then ended else ended.turnTo (.document [] [])

/-- Read a character that has a meaning in any text without quotes; nothing, if it has none. -/
def stepQuoting? (s : Scanner) (c : Char) : Option Scanner :=
  if c = '\'' then some ((s.addText [] true).turnTo .singleQuoted)
  else if c = '"' then some ((s.addText [] true).turnTo .doubleQuoted)
  else if c = '\\' then some (s.turnTo .escaped)
  else if c = '$' then some (s.turnTo (.dollar false))
  else if c = backquote then some (s.turnTo (.backquoted false false []))
  else none

/-- Read a character of a script outside of quotes. -/
def stepScript (s : Scanner) (c : Char) : Scanner :=
  if c = '\n' then s.stepLineEnd
  else if c = ' ' || c = '\t' then s.endWord
  else if c = '#' && s.level.word?.isNone then s.turnTo .comment
  else if c = '(' || c = ')' then s.endWord.stepParenthesis c
  else if c = '<' || c = '>' then s.endDescriptor.turnTo (.operator [c])
  else if isOperator c then s.endWord.turnTo (.operator [c])
  else s.addText [c] false

def stepPlain (s : Scanner) (c : Char) : Scanner :=
  let s := s.turnTo .plain
  let s := if s.level.enclosure = .substitution && c = ')' then s.endWord else s
  if s.closes c then s.stepClosing
  else
    match s.stepQuoting? c with
    | some s => s
    | none =>
      match s.level.enclosure with
      | .script | .substitution => s.stepScript c
      | _ => s.addText [c] false

/-- Read a character of an expression that is not part of a value in it. Two parentheses that
close none end it. -/
def stepExpression (s : Scanner) (c : Char) : Scanner :=
  let after := fun (opened : List Opening) =>
    { s.addText [c] true with level := { (s.addText [c] true).level with opened } }
  match c, s.level.opened with
  | ')', .closing :: _ => if s.outer.isEmpty then s.addText [c] true else s.leave .arithmetic 2
  | ')', .parenthesis :: others => after others
  | ')', opened => after (.closing :: opened)
  | '(', .closing :: others => after (.parenthesis :: others)
  | '(', opened => after (.parenthesis :: opened)
  | _, .closing :: others => after others
  | _, opened => after opened

def stepQuote (s : Scanner) : Scanner :=
  match s.level.enclosure with
  | .script | .substitution => s.turnTo .plain
  | .braces =>
    if s.level.quoted then { s with level := { s.level with requoted := !s.level.requoted } }
    else s.turnTo .plain
  | .arithmetic | .document => s.addText ['"'] true

/-- Whether a single quote counts inside of the double quotes around a pattern. -/
def quotesPattern (s : Scanner) : Bool :=
  s.level.enclosure = .braces && !s.outer.isEmpty && s.level.quoted && !s.level.requoted &&
    isPatternText (s.level.read.drop 1).reverse

def stepQuoted (s : Scanner) (c : Char) : Scanner :=
  let s := s.turnTo .doubleQuoted
  if s.level.enclosure = .braces && s.level.quoted && s.closes c then s.stepClosing
  else if c = '"' then s.stepQuote
  else if c = '\\' then s.turnTo .escapedInQuotes
  else if c = '$' then s.turnTo (.dollar true)
  else if c = backquote then s.turnTo (.backquoted true false [])
  else if c = '\'' && s.quotesPattern then s.turnTo .singleQuoted
  else if s.level.enclosure = .arithmetic then s.stepExpression c
  else s.addText [c] true

/-- Read a character afresh, after what came before it has ended. -/
def stepAround (quoted : Bool) (s : Scanner) (c : Char) : Scanner :=
  if quoted then s.stepQuoted c else s.stepPlain c

/-- Whether a backslash inside of double quotes takes away the meaning of a character. -/
def isEscapableInQuotes (s : Scanner) (c : Char) : Bool :=
  ['$', '\\', backquote].contains c || (c = '"' && s.level.enclosure ≠ .document) ||
    (c = '}' && s.level.enclosure = .braces)

/-- Read a character between backquotes. A backslash counts only before a few characters. -/
def stepBackquoted (s : Scanner) (quoted escaped : Bool) (read : Raw) (c : Char) : Scanner :=
  if escaped then
    let counts := [backquote, '\\', '$'].contains c || (quoted && c = '"')
    s.turnTo (.backquoted quoted false (read ++ if counts then [c] else ['\\', c]))
  else if c = backquote then
    (s.addPart (.substitution s.line read false quoted)).turnTo (around quoted)
  else if c = '\\' then s.turnTo (.backquoted quoted true read)
  else s.turnTo (.backquoted quoted false (read ++ [c]))

def endDocument (s : Scanner) (lines : Raw) : Scanner :=
  match s.level.announced with
  | [] => s.turnTo .plain
  | a :: others =>
    let start := s.line - lines.count '\n'
    let part := if a.replaced then WordPart.document start lines else .text lines true
    let level :=
      { s.level with
        announced := others
        documents := s.level.documents ++ [[part]]
        mode := if others.isEmpty then .plain else .document [] [] }
    { s with level }

def documentLine (s : Scanner) (line : Raw) : Raw :=
  if s.level.announced.head?.any (·.tabsDropped) then line.dropWhile (· = '\t') else line

def stepDocument (s : Scanner) (lines line : Raw) (c : Char) : Scanner :=
  if c = '\n' then
    let line := s.documentLine line
    if s.level.announced.head?.any (·.lastLine = line) then s.endDocument lines
    else s.turnTo (.document (lines ++ line ++ ['\n']) [])
  else s.turnTo (.document lines (line ++ [c]))

def stepDollar (s : Scanner) (quoted : Bool) (c : Char) : Scanner :=
  if c = '{' then s.enter .braces quoted []
  else if c = '(' then s.turnTo (.parenthesis quoted)
  else if isNameStart c then s.turnTo (.name quoted [c])
  else if isSpecialParameter c then
    (s.addPart (.parameter [c] .plain quoted)).turnTo (around quoted)
  else (s.addText ['$'] quoted).stepAround quoted c

/-- Read a character, of which the text of the level has been told. -/
def stepMode (s : Scanner) (c : Char) : Scanner :=
  match s.level.mode with
  | .plain => s.stepPlain c
  | .doubleQuoted => s.stepQuoted c
  | .singleQuoted =>
    if c = '\'' then s.turnTo (around (s.level.enclosure = .braces && s.level.quoted))
    else s.addText [c] true
  | .escaped =>
    if c = '\n' then s.turnTo .plain else (s.addText [c] true).turnTo .plain
  | .escapedInQuotes =>
    let s := s.turnTo .doubleQuoted
    if c = '\n' then s
    else if s.isEscapableInQuotes c then s.addText [c] true
    else s.addText ['\\', c] true
  | .dollar quoted => s.stepDollar quoted c
  | .parenthesis quoted =>
    if c = '(' then s.enter .arithmetic quoted []
    else (s.enter .substitution quoted [c]).stepPlain c
  | .name quoted read =>
    if isNameRest c then s.turnTo (.name quoted (read ++ [c]))
    else (s.addPart (.parameter read .plain quoted)).stepAround quoted c
  | .backquoted quoted escaped read => s.stepBackquoted quoted escaped read c
  | .operator read =>
    if isLongOperator (read ++ [c]) then s.turnTo (.operator (read ++ [c]))
    else (s.emitOperator read).stepPlain c
  | .comment => if c = '\n' then s.stepPlain c else s
  | .document lines line => s.stepDocument lines line c

def Level.note (l : Level) (c : Char) : Level :=
  { l with read := c :: l.read }

def step (s : Scanner) (c : Char) : Scanner :=
  let noted : Scanner := { s with level := s.level.note c, outer := s.outer.map (·.note c) }
  let after := noted.stepMode c
  if c = '\n' then { after with line := after.line + 1 } else after

def Mode.isQuoted : Mode → Bool
  | .singleQuoted | .doubleQuoted | .escapedInQuotes => true
  | .dollar quoted | .name quoted _ => quoted
  | _ => false

/-- Why a text cannot end where the scanner stands, if it cannot. -/
def fault? (s : Scanner) : Option String :=
  match s.level.mode, s.level.enclosure with
  | .backquoted .., _ => some "EOF in backquote substitution"
  | .parenthesis _, _ => some "end of file unexpected (expecting \")\")"
  | mode, enclosure =>
    if enclosure = .arithmetic then some "Missing '))'"
    else if mode.isQuoted then some "Unterminated quoted string"
    else if enclosure = .braces then some "Missing '\x7d'"
    else if enclosure = .substitution then some "end of file unexpected (expecting \")\")"
    else none

/-- Complete the documents that the end of the text cuts off. -/
def endDocuments (s : Scanner) : Scanner :=
  match s.level.mode with
  | .document lines line =>
    let line := s.documentLine line
    let cut := if s.level.announced.head?.any (·.lastLine = line) then s.endDocument lines
      else s.endDocument (lines ++ line)
    cut.level.announced.foldl (fun s _ => s.endDocument []) cut
  | _ => s.level.announced.foldl (fun s _ => s.endDocument []) s

/-- End what the scanner is in the middle of, at the end of the text. -/
def finish (s : Scanner) : Scanner :=
  match s.level.mode with
  | .escaped | .escapedInQuotes => s.addText ['\\'] true
  | .dollar quoted => s.addText ['$'] quoted
  | .name quoted read => s.addPart (.parameter read .plain quoted)
  | .operator read => s.emitOperator read
  | _ => s

/-- A token with the lines of its document in place. -/
def withDocument (documents : List Word) (t : PlacedToken) : PlacedToken :=
  match t.token with
  | .document number => { t with token := .word (documents.getD number []) }
  | _ => t

end Scanner

/-- The tokens of a script that starts on a line. Where it cannot be read any further, a fault
stands in place of its end. -/
def tokens (line : Nat) (script : Raw) : List PlacedToken :=
  let s := script.foldl Scanner.step (.start .script false line)
  let bottom := s.outer.getLastD s.level
  match s.fault? with
  | some message =>
    bottom.found.reverse.map (Scanner.withDocument bottom.documents) ++
      [⟨.fault (rawText message), s.line⟩]
  | none =>
    let s := s.finish.endWord.endDocuments
    s.level.found.reverse.map (Scanner.withDocument s.level.documents) ++ [⟨.scriptEnd, s.line⟩]

/-- The word that a text on a line is which a word encloses. -/
def enclosedWord (enclosure : Scanner.Enclosure) (line : Nat) (quoted : Bool) (text : Raw) : Word :=
  ((text.foldl Scanner.step (.start enclosure quoted line)).finish.level.word?).getD []

end GoTasks.Shell
