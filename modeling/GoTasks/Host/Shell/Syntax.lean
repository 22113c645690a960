import GoTasks.Host.Shell.Alias

/-!
# Shell commands

A script is a sequence of commands. A simple command is a list of words, with assignments
before them and redirections among them; the others put commands together, and can be followed
by redirections too. A choice among several patterns is written as a chain, each link with one
clause, so that every command is a plain tree.

A command is read by functions that give the tokens they leave, or say what is wrong with the
tokens. Where a command can start, an alias is replaced by its text. The depth to which the
functions call each other is bounded by a number that the length of the script provides.
-/

namespace GoTasks.Shell

/-- What a redirection does with a descriptor. -/
inductive RedirectKind where
  | write
  /-- Writes to a file even if files are to be kept. -/
  | overwrite
  | append
  | read
  | readWrite
  | duplicate
  /-- Reads the lines of a document. -/
  | document
  deriving DecidableEq, Repr

/-- A redirection of a descriptor. -/
structure Redirect where
  descriptor : Nat
  kind : RedirectKind
  target : Word
  deriving DecidableEq, Repr

/-- A simple command, with the number of its line. -/
structure SimpleCommand where
  line : Nat
  assignments : List (Raw × Word)
  words : List Word
  redirects : List Redirect
  deriving DecidableEq, Repr

/-- A command. -/
inductive Command where
  | nothing
  | simple (c : SimpleCommand)
  | sequence (first second : Command)
  | andThen (first second : Command)
  | orElse (first second : Command)
  | negated (c : Command)
  | conditional (test yes no : Command)
  | choice (line : Nat) (subject : Word) (patterns : List Word) (body otherwise : Command)
  /-- The second command reads what the first one writes. -/
  | piped (first second : Command)
  /-- A command that a shell of its own carries out. -/
  | enclosed (body : Command)
  /-- A command that nobody waits for. -/
  | detached (body : Command)
  /-- A command that is repeated for each of some values. -/
  | each (line : Nat) (name : Raw) (values : List Word) (body : Command)
  /-- A command that is repeated as long as a test succeeds, or fails. -/
  | repeated (succeeding : Bool) (test body : Command)
  /-- A command with redirections, and the number of its line. -/
  | redirected (line : Nat) (redirects : List Redirect) (body : Command)
  /-- A command that is given a name. -/
  | definition (name : Raw) (body : Command)
  deriving DecidableEq, Repr

/-- What is wrong with a script, and on which line. -/
structure Fault where
  line : Nat
  message : Raw
  deriving DecidableEq, Repr

/-- A reader of tokens: what it has read, and the tokens it leaves. -/
abbrev Reader (α : Type) := List PlacedToken → Except Fault (α × List PlacedToken)

def isRedirection (cs : Raw) : Bool :=
  cs.head? = some '<' || cs.head? = some '>'

def tokenName (t : PlacedToken) : String :=
  match t.token with
  | .word _ =>
    match bareWord? t with
    | some w => if keywords.contains w then "\"" ++ w ++ "\"" else "word"
    | none => "word"
  | .descriptor _ => "redirection"
  | .operator cs => if isRedirection cs then "redirection" else "\"" ++ String.ofList cs ++ "\""
  | .document _ => "word"
  | .lineEnd => "newline"
  | .scriptEnd | .fault _ => "end of file"

/-- The fault of a line that holds a token. The end of a line is found on the next one. -/
def faultAt (t : PlacedToken) (message : Raw) : Fault :=
  match t.token with
  | .fault found => ⟨t.line, found⟩
  | .lineEnd => ⟨t.line + 1, message⟩
  | _ => ⟨t.line, message⟩

/-- The fault that a token stands where it cannot. -/
def unexpected (tokens : List PlacedToken) (expected : String) : Fault :=
  let t := tokens.headD ⟨.scriptEnd, 1⟩
  let wish := if expected.isEmpty then "" else " (expecting " ++ expected ++ ")"
  faultAt t (rawText (tokenName t ++ " unexpected" ++ wish))

def skipLineEnds : List PlacedToken → List PlacedToken
  | ⟨.lineEnd, _⟩ :: rest => skipLineEnds rest
  | tokens => tokens

/-- Whether a list of commands inside another command ends before these tokens. -/
def isClosed : List PlacedToken → Bool
  | [] => true
  | t :: _ =>
    t.token = .operator [';', ';'] || t.token = .operator [')'] || t.token = .scriptEnd ||
      ((bareWord? t).map
        ["then", "elif", "else", "fi", "esac", "do", "done", "\x7d"].contains).getD false

def keyword (w : String) : Reader Unit
  | t :: rest =>
    if bareWord? t = some w then .ok ((), rest)
    else .error (unexpected (t :: rest) ("\"" ++ w ++ "\""))
  | [] => .error (unexpected [] ("\"" ++ w ++ "\""))

def operator (cs : Raw) : Reader Unit
  | t :: rest =>
    if t.token = .operator cs then .ok ((), rest)
    else .error (unexpected (t :: rest) ("\"" ++ String.ofList cs ++ "\""))
  | [] => .error (unexpected [] ("\"" ++ String.ofList cs ++ "\""))

/-- Read an operator where words have no special meaning. -/
def operatorAmongWords (cs : Raw) : Reader Unit
  | ⟨.word w, line⟩ :: rest =>
    operator cs (⟨.word (if w.bare?.isSome then [.text [] true] else w), line⟩ :: rest)
  | tokens => operator cs tokens

/-- The assignment that a word is: a name, an equals sign and a value. -/
def assignment? (w : Word) : Option (Raw × Word) :=
  match w with
  | .text cs false :: parts =>
    match cs.dropWhile (· ≠ '=') with
    | [] => none
    | _ :: value =>
      if isName (cs.takeWhile (· ≠ '=')) then
        let first : Word := if value.isEmpty then [] else [.text value false]
        some (cs.takeWhile (· ≠ '='), first ++ parts)
      else none
  | _ => none

/-- What an operator redirects, and which descriptor if none is named. -/
def redirection? (cs : Raw) : Option (RedirectKind × Nat) :=
  match String.ofList cs with
  | ">" => some (.write, 1)
  | ">|" => some (.overwrite, 1)
  | ">>" => some (.append, 1)
  | "<" => some (.read, 0)
  | "<>" => some (.readWrite, 0)
  | ">&" => some (.duplicate, 1)
  | "<&" => some (.duplicate, 0)
  | "<<" | "<<-" => some (.document, 0)
  | _ => none

def redirectTarget (descriptor? : Option Nat) (cs : Raw) : Reader Redirect
  | t :: rest =>
    match redirection? cs, t.token with
    | some (kind, n), .word w => .ok (⟨descriptor?.getD n, kind, w⟩, rest)
    | _, _ => .error (unexpected (t :: rest) "")
  | [] => .error (unexpected [] "")

/-- Read a redirection, if there is one. -/
def redirect? : Reader (Option Redirect)
  | ⟨.descriptor n, line⟩ :: ⟨.operator cs, line'⟩ :: rest =>
    if isRedirection cs then (redirectTarget (some n) cs rest).map fun (r, left) => (some r, left)
    else .ok (none, ⟨.descriptor n, line⟩ :: ⟨.operator cs, line'⟩ :: rest)
  | ⟨.operator cs, line⟩ :: rest =>
    if isRedirection cs then (redirectTarget none cs rest).map fun (r, left) => (some r, left)
    else .ok (none, ⟨.operator cs, line⟩ :: rest)
  | tokens => .ok (none, tokens)

def redirects : Nat → Reader (List Redirect)
  | 0, tokens => .ok ([], tokens)
  | limit + 1, tokens => do
    let (found?, rest) ← redirect? tokens
    match found? with
    | none => .ok ([], rest)
    | some r =>
      let (others, left) ← redirects limit rest
      .ok (r :: others, left)

namespace SimpleCommand

/-- The command with a word at its end. Before the first word an assignment is one. -/
def addWord (c : SimpleCommand) (w : Word) : SimpleCommand :=
  match if c.words.isEmpty then assignment? w else none with
  | some a => { c with assignments := c.assignments ++ [a] }
  | none => { c with words := c.words ++ [w] }

def addRedirect (c : SimpleCommand) (r : Redirect) : SimpleCommand :=
  { c with redirects := c.redirects ++ [r] }

/-- The name that a command would give to another one, if parentheses followed. -/
def definedName? (c : SimpleCommand) : Option Word :=
  match c with
  | ⟨_, [], [w], []⟩ => some w
  | _ => none

/-- Read at most so many words and redirections. The first word can be an alias. -/
def read (aliases : Aliases) (c : SimpleCommand) : Nat → Reader SimpleCommand
  | 0, tokens => .ok (c, tokens)
  | limit + 1, tokens => do
    let tokens := if c.words.isEmpty then aliases.replace tokens else tokens
    match tokens with
    | ⟨.word w, _⟩ :: rest => (c.addWord w).read aliases limit rest
    | _ =>
      let (found?, rest) ← redirect? tokens
      match found? with
      | some r => (c.addRedirect r).read aliases limit rest
      | none => .ok (c, rest)

end SimpleCommand

/-- Read the patterns of a clause, up to their closing parenthesis. -/
def patterns : Reader (List Word)
  | ⟨.word w, _⟩ :: ⟨.operator ['|'], _⟩ :: rest => do
    let (ws, left) ← patterns rest
    .ok (w :: ws, left)
  | ⟨.word w, _⟩ :: rest => do
    let (_, left) ← operatorAmongWords [')'] rest
    .ok ([w], left)
  | tokens => .error (unexpected tokens "\")\"")

/-- The tokens after the parenthesis that can open a clause. -/
def skipOpening : List PlacedToken → List PlacedToken
  | ⟨.operator ['('], _⟩ :: rest => rest
  | tokens => tokens

def words : List PlacedToken → List Word × List PlacedToken
  | ⟨.word w, _⟩ :: rest => (w :: (words rest).1, (words rest).2)
  | tokens => ([], tokens)

/-- Read the values that a command is repeated for: those after `in`, up to the end of the line,
or else the positional parameters. -/
def loopValues (tokens : List PlacedToken) : Except Fault (List Word × List PlacedToken) :=
  match keyword "in" (skipLineEnds tokens) with
  | .ok (_, rest) =>
    match words rest with
    | (ws, ⟨.lineEnd, _⟩ :: left) | (ws, ⟨.operator [';'], _⟩ :: left) => .ok (ws, left)
    | (_, left) => .error (unexpected left "")
  | .error _ =>
    let all : List Word := [[.parameter ['@'] .plain true]]
    match skipLineEnds tokens with
    | ⟨.operator [';'], _⟩ :: left => .ok (all, left)
    | left => .ok (all, left)

/-- The commands that the shell does not let be defined anew, since they are special. -/
def specialNames : List String :=
  [":", ".", "break", "continue", "eval", "exec", "exit", "export", "readonly", "return", "set",
    "shift", "times", "trap", "unset"]

section Commands

variable (aliases : Aliases)

/-- The tokens at the start of commands, without line ends and with aliases replaced. -/
def atStart (tokens : List PlacedToken) : List PlacedToken :=
  aliases.replace (skipLineEnds (aliases.replace (skipLineEnds tokens)))

mutual

/-- Read commands inside another command, up to what closes it. Unless it is `optional`, there
has to be one. -/
def commandList (optional : Bool) : Nat → Reader Command
  | 0, tokens => .error (unexpected tokens "")
  | depth + 1, tokens =>
    let start := atStart aliases tokens
    if isClosed start && (optional || start.head?.all (·.token = .scriptEnd)) then
      .ok (.nothing, start)
    else do
      let (first, rest) ← chain depth start
      match rest with
      | ⟨.operator ['&'], _⟩ :: rest => do
        let (others, left) ← commandList true depth rest
        .ok (.sequence (.detached first) others, left)
      | ⟨.operator [';'], _⟩ :: rest | ⟨.lineEnd, _⟩ :: rest => do
        let (others, left) ← commandList true depth rest
        .ok (.sequence first others, left)
      | left => .ok (.sequence first .nothing, left)

/-- Read commands that are joined by `&&` and `||`. -/
def chain : Nat → Reader Command
  | 0, tokens => .error (unexpected tokens "")
  | depth + 1, tokens => do
    let (first, rest) ← pipeline depth tokens
    chainRest depth first rest

/-- Read what is joined to a command. -/
def chainRest : Nat → Command → Reader Command
  | 0, _, tokens => .error (unexpected tokens "")
  | depth + 1, first, ⟨.operator ['&', '&'], _⟩ :: rest => do
    let (second, left) ← pipeline depth (atStart aliases rest)
    chainRest depth (.andThen first second) left
  | depth + 1, first, ⟨.operator ['|', '|'], _⟩ :: rest => do
    let (second, left) ← pipeline depth (atStart aliases rest)
    chainRest depth (.orElse first second) left
  | _ + 1, first, tokens => .ok (first, tokens)

/-- Read commands that are joined by `|`, which may be negated together. -/
def pipeline : Nat → Reader Command
  | 0, tokens => .error (unexpected tokens "")
  | depth + 1, tokens =>
    let tokens := aliases.replace tokens
    match keyword "!" tokens with
    | .ok (_, rest) => do
      let (first, rest) ← command depth (aliases.replace rest)
      let (all, left) ← pipelineRest depth first rest
      .ok (.negated all, left)
    | .error _ => do
      let (first, rest) ← command depth tokens
      pipelineRest depth first rest

def pipelineRest : Nat → Command → Reader Command
  | 0, _, tokens => .error (unexpected tokens "")
  | depth + 1, first, ⟨.operator ['|'], _⟩ :: rest => do
    let (second, left) ← command depth (atStart aliases rest)
    pipelineRest depth (.piped first second) left
  | _ + 1, first, tokens => .ok (first, tokens)

def command : Nat → Reader Command
  | 0, tokens => .error (unexpected tokens "")
  | _ + 1, [] => .error (unexpected [] "")
  | depth + 1, t :: rest =>
    if t.token = .operator ['('] then do
      let (body, rest) ← commandList false depth rest
      let (_, left) ← operator [')'] rest
      redirecting t.line (.enclosed body) left
    else
      match bareWord? t with
      | some "if" => do
        let (c, left) ← conditional depth rest
        redirecting t.line c left
      | some "case" =>
        match rest with
        | ⟨.word subject, _⟩ :: rest => do
          let (_, rest) ← keyword "in" (skipLineEnds rest)
          let (c, left) ← clauses t.line depth subject (skipLineEnds rest)
          redirecting t.line c left
        | _ => .error (unexpected rest "word")
      | some "for" =>
        match rest with
        | ⟨.word [.text name false], line⟩ :: rest =>
          if isName name then do
            let (values, rest) ← loopValues rest
            let (body, left) ← loopBody depth (skipLineEnds rest)
            redirecting t.line (.each t.line name values body) left
          else .error ⟨line, rawText "Bad for loop variable"⟩
        | _ => .error (faultAt (rest.headD t) (rawText "Bad for loop variable"))
      | some "while" => do
        let (test, rest) ← commandList false depth rest
        let (body, left) ← loopBody depth rest
        redirecting t.line (.repeated true test body) left
      | some "until" => do
        let (test, rest) ← commandList false depth rest
        let (body, left) ← loopBody depth rest
        redirecting t.line (.repeated false test body) left
      | some "\x7b" => do
        let (body, rest) ← commandList false depth rest
        let (_, left) ← keyword "\x7d" rest
        redirecting t.line body left
      | some w => if keywords.contains w then .error (unexpected (t :: rest) "")
        else simple depth (t :: rest)
      | none =>
        match t.token with
        | .word _ | .descriptor _ => simple depth (t :: rest)
        | .operator cs =>
          if isRedirection cs then simple depth (t :: rest) else .error (unexpected (t :: rest) "")
        | _ => .error (unexpected (t :: rest) "")

/-- Read a simple command, or one that is given a name. -/
def simple : Nat → Reader Command
  | 0, tokens => .error (unexpected tokens "")
  | depth + 1, tokens => do
    let line := (tokens.headD ⟨.scriptEnd, 1⟩).line
    let limit := tokens.length + aliases.size
    let (c, rest) ← (SimpleCommand.mk line [] [] []).read aliases limit tokens
    match c.definedName?, rest with
    | some w, ⟨.operator ['('], _⟩ :: rest => do
      let (_, rest) ← operatorAmongWords [')'] rest
      match w.bare? with
      | some name =>
        if isName name && !specialNames.contains (String.ofList name) then do
          let (body, left) ← command depth (atStart aliases rest)
          .ok (.definition name body, left)
        else .error ⟨line, rawText "Bad function name"⟩
      | none => .error ⟨line, rawText "Bad function name"⟩
    | _, _ => .ok (.simple c, rest)

def redirecting (line : Nat) (body : Command) : Reader Command := fun tokens => do
  let (rs, left) ← redirects tokens.length tokens
  .ok (if rs.isEmpty then body else .redirected line rs body, left)

def loopBody : Nat → Reader Command
  | 0, tokens => .error (unexpected tokens "")
  | depth + 1, tokens => do
    let (_, rest) ← keyword "do" tokens
    let (body, rest) ← commandList false depth rest
    let (_, left) ← keyword "done" rest
    .ok (body, left)

def conditional : Nat → Reader Command
  | 0, tokens => .error (unexpected tokens "")
  | depth + 1, tokens => do
    let (test, rest) ← commandList false depth tokens
    let (_, rest) ← keyword "then" rest
    let (yes, rest) ← commandList false depth rest
    match keyword "elif" rest, keyword "else" rest with
    | .ok (_, rest), _ => do
      let (no, left) ← conditional depth rest
      .ok (.conditional test yes no, left)
    | _, .ok (_, rest) => do
      let (no, rest) ← commandList false depth rest
      let (_, left) ← keyword "fi" rest
      .ok (.conditional test yes no, left)
    | _, _ => do
      let (_, left) ← keyword "fi" rest
      .ok (.conditional test yes .nothing, left)

/-- Read the clauses of a choice, up to its last word. The last clause needs no end. -/
def clauses (line : Nat) : Nat → Word → Reader Command
  | 0, _, tokens => .error (unexpected tokens "")
  | depth + 1, subject, tokens =>
    match keyword "esac" tokens with
    | .ok (_, left) => .ok (.nothing, left)
    | .error _ => do
      let (ps, rest) ← patterns (skipOpening tokens)
      let (body, rest) ← commandList true depth rest
      match keyword "esac" rest with
      | .ok (_, left) => .ok (.choice line subject ps body .nothing, left)
      | .error _ => do
        let (_, rest) ← operator [';', ';'] rest
        let (otherwise, left) ← clauses line depth subject (skipLineEnds rest)
        .ok (.choice line subject ps body otherwise, left)

end

/-- Read the commands of a line, which may go on in the next ones. -/
def commandLine (depth : Nat) : Nat → Reader Command
  | 0, tokens => .error (unexpected tokens "")
  | limit + 1, tokens => do
    let (first, rest) ← chain aliases depth tokens
    match rest with
    | ⟨.operator ['&'], _⟩ :: rest => others (.detached first) limit rest
    | ⟨.operator [';'], _⟩ :: rest => others first limit rest
    | ⟨.lineEnd, _⟩ :: left => .ok (first, left)
    | ⟨.scriptEnd, _⟩ :: _ => .ok (first, rest)
    | _ => .error (unexpected rest "")
where
  /-- Read what follows a command on its line. -/
  others (first : Command) (limit : Nat) : Reader Command
    | ⟨.lineEnd, _⟩ :: left => .ok (first, left)
    | ⟨.scriptEnd, line⟩ :: left => .ok (first, ⟨.scriptEnd, line⟩ :: left)
    | tokens => do
      let (second, left) ← commandLine depth limit tokens
      .ok (.sequence first second, left)

/-- Read the next commands of a script: none, if it has ended. -/
def nextCommand (tokens : List PlacedToken) : Except Fault (Option (Command × List PlacedToken)) :=
  match atStart aliases tokens with
  | [] | ⟨.scriptEnd, _⟩ :: _ => .ok none
  | start =>
    let limit := (start.length + 1) * (aliases.size + 1)
    (commandLine aliases (8 * limit) limit start).map some

end Commands

/-- The first fault of a script, if it has one. -/
def firstFault? : Nat → List PlacedToken → Option Fault
  | 0, _ => none
  | limit + 1, tokens =>
    match nextCommand [] tokens with
    | .error fault => some fault
    | .ok none => none
    | .ok (some (_, left)) => firstFault? limit left

/-- The first fault of a script between parentheses, which is followed by the closing one. -/
def enclosedFault? (tokens : List PlacedToken) : Option Fault :=
  let closed := tokens.map fun t =>
    if t.token = .scriptEnd then ⟨.operator [')'], t.line⟩ else t
  match commandList [] true (8 * closed.length + 8) closed with
  | .error fault => some fault
  | .ok (_, rest) =>
    match operator [')'] rest with
    | .error fault => some fault
    | .ok _ => none

/-- The fault of a part of a word, where the tokens of a script are found by a function. -/
def partFault? (tokensOf : Nat → Raw → List PlacedToken) : WordPart → Option Fault
  | .substitution line script parenthesized _ =>
    let inner := tokensOf line script
    if parenthesized then enclosedFault? inner else firstFault? (inner.length + 1) inner
  | _ => none

/-- The tokens of a script, when scripts are nested at most so deep in its words. A word with a
faulty script is a fault itself. -/
def checkedTokens : Nat → Nat → Raw → List PlacedToken
  | 0, line, text => tokens line text
  | depth + 1, line, text =>
    (tokens line text).map fun t =>
      match t.token with
      | .word w =>
        match w.findSome? (partFault? (checkedTokens depth)) with
        | some fault => ⟨.fault fault.message, fault.line⟩
        | none => t
      | _ => t

end GoTasks.Shell
