import GoTasks.Host.Launch

/-!
# Tools

A tool is called with its own name, options and operands, in any order. It says which options it
has and how many operands it needs; one that is called in another way explains how it should be,
and does nothing else.
-/

namespace GoTasks.Tool

/-- A call of a tool, in a process. -/
structure Call where
  ownName : Bytes
  /-- The options, each with its value, which is empty if it takes none. -/
  options : List (Char × Bytes)
  operands : List Bytes
  context : ProcessContext
  deriving DecidableEq, Repr

/-- What a tool does, and how it is called. -/
structure Program where
  /-- The letters of the options without a value. -/
  flags : String
  /-- The letters of the options with a value. -/
  valued : String
  /-- The names of options that stand for letters. -/
  names : List (String × Char)
  /-- How many operands are needed, and how they are called. -/
  needed : Nat
  neededName : String
  /-- The status of a call that is none. -/
  misused : UInt8
  run : Call → Host → WaitStatus × Host

/-- The status of a tool that did all it was asked, or not. -/
def verdict (ok : Bool) : WaitStatus :=
  .exited (if ok then 0 else 1)

def quoted (name : Bytes) : Bytes :=
  [0x27] ++ name ++ [0x27]

def shellCharacters : Bytes :=
  Text.Utf8.encode " \t\n!\"$&'()*;<=>?[\\]^|\x7b\x7d\x60~#"

/-- A name, between quotes if a shell would need them. -/
def quotedIfNeeded (name : Bytes) : Bytes :=
  if name.isEmpty || name.any shellCharacters.contains then quoted name else name

namespace Call

def has (c : Call) (letter : Char) : Bool :=
  c.options.any (·.1 = letter)

/-- The last value of an option. -/
def value? (c : Call) (letter : Char) : Option Bytes :=
  (c.options.reverse.find? (·.1 = letter)).map (·.2)

def write (c : Call) (bytes : Bytes) (host : Host) : Host :=
  c.context.write 1 bytes host

def complain (c : Call) (message : Bytes) (host : Host) : Host :=
  c.context.write 2 (c.ownName ++ Text.Utf8.encode ": " ++ message ++ [0x0A]) host

def explain (c : Call) (message : Bytes) (host : Host) : Host :=
  let hint := Text.Utf8.encode "Try '" ++ c.ownName ++
    Text.Utf8.encode " --help' for more information.\n"
  c.context.write 2 hint (c.complain message host)

/-- Write a message about a file that something could not be done with. -/
def complainAbout (c : Call) (what : String) (name : Bytes) (e : SystemError) (host : Host) :
    Host :=
  let reason := match e with
    | .numbered n => errorName n
    | .described _ text => text
  c.complain (Text.Utf8.encode what ++ name ++ Text.Utf8.encode (": " ++ reason)) host

/-- What an operand leads to, with its location. -/
def resolve (c : Call) (host : Host) (name : Bytes) : Except SystemError (Location × FileEntry) :=
  host.tree.resolve c.context.cwd ⟨name⟩

/-- What can be read under a name, a minus sign being the name of what the process can read. -/
def read (c : Call) (name : Bytes) (host : Host) : Except SystemError (Bytes × Host) :=
  if name = [0x2D] then .ok (c.context.readAll host)
  else (host.tree.read c.context.cwd ⟨name⟩).map (·, host)

end Call

/-- Do something for each operand, and tell whether all went well. -/
def forEach (operands : List Bytes) (act : Bytes → Host → Bool × Host) (host : Host) :
    WaitStatus × Host :=
  let (ok, host) := operands.foldl
    (fun (ok, host) name =>
      let (good, host) := act name host
      (ok && good, host))
    (true, host)
  (verdict ok, host)

namespace Program

/-- A tool without options that is content with any operands. -/
def plain (run : Call → Host → WaitStatus × Host) : Program :=
  ⟨"", "", [], 0, "operand", 1, run⟩

/-- Read the letters of an argument, and the value of an option, which may be the next argument. -/
def letters (p : Program) (rest : List Bytes) : Bytes →
    Except Bytes (List (Char × Bytes) × List Bytes)
  | [] => .ok ([], rest)
  | b :: bs =>
    let letter := Char.ofNat b.toNat
    if p.flags.toList.contains letter then do
      let (options, rest) ← letters p rest bs
      return ((letter, []) :: options, rest)
    else if p.valued.toList.contains letter then
      match bs, rest with
      | [], [] => .error (Text.Utf8.encode "option requires an argument -- " ++ quoted [b])
      | [], value :: rest => .ok ([(letter, value)], rest)
      | _, _ => .ok ([(letter, bs)], rest)
    else .error (Text.Utf8.encode "invalid option -- " ++ quoted [b])

def named (p : Program) (name : Bytes) : Except Bytes (List (Char × Bytes)) :=
  match p.names.find? fun x => Text.Utf8.encode x.1 = name with
  | some (_, letter) => .ok [(letter, [])]
  | none => .error (Text.Utf8.encode "unrecognized option " ++ quoted ([0x2D, 0x2D] ++ name))

/-- Read arguments, at most so many: the options among them, and the operands. -/
def arguments (p : Program) : Nat → List Bytes → Except Bytes (List (Char × Bytes) × List Bytes)
  | 0, _ => .ok ([], [])
  | _ + 1, [] => .ok ([], [])
  | limit + 1, argument :: rest =>
    match argument with
    | [0x2D, 0x2D] => .ok ([], rest)
    | 0x2D :: 0x2D :: name => do
      let found ← p.named name
      let (options, operands) ← arguments p limit rest
      return (found ++ options, operands)
    | 0x2D :: b :: bs => do
      let (found, rest) ← p.letters rest (b :: bs)
      let (options, operands) ← arguments p limit rest
      return (found ++ options, operands)
    | _ => do
      let (options, operands) ← arguments p limit rest
      return (options, argument :: operands)

/-- Call a tool with its arguments, its own name first. -/
def call (p : Program) (given : List Bytes) (ctx : ProcessContext) (host : Host) :
    WaitStatus × Host :=
  let bare : Call := ⟨given.headD [], [], [], ctx⟩
  match p.arguments given.length given.tail with
  | .error message => (.exited p.misused, bare.explain message host)
  | .ok (options, operands) =>
    if operands.length < p.needed then
      let message := if operands.isEmpty then Text.Utf8.encode ("missing " ++ p.neededName)
        else
          Text.Utf8.encode ("missing destination " ++ p.neededName ++ " after ") ++
            quoted (operands.headD [])
      (.exited p.misused, bare.explain message host)
    else p.run { bare with options, operands } host

end Program
end GoTasks.Tool
