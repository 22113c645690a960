import GoTasks.Host.Shell.Start
import GoTasks.Host.Tool.Text

/-!
# The programs of a host

Every program that a host comes with, as it is run with its arguments: its shell, the tools for
files and text, and those that have to do with the process itself.
-/

namespace GoTasks.Tool

/-! ## Variables -/

/-- Put a variable among those of a process, in place of the one of its name. -/
def putVariable (given : List Bytes) (assignment : Bytes) : List Bytes :=
  let name := (splitAssignment assignment).1
  if given.any fun v => (splitAssignment v).1 = name then
    given.map fun v => if (splitAssignment v).1 = name then assignment else v
  else given ++ [assignment]

def removeVariable (given : List Bytes) (name : Bytes) : List Bytes :=
  given.filter fun v => (splitAssignment v).1 ≠ name

def wordsOf (text : Bytes) : List Bytes :=
  (text.splitBy fun a b => isGap a = isGap b).filter (·.head?.any (!isGap ·))

/-- A call to start a program in another environment: the options at the start of its arguments,
and what comes after them. -/
structure EnvironmentCall where
  /-- Whether no variables are handed on. -/
  bare : Bool
  removed : List Bytes
  lineEnd : UInt8
  rest : List Bytes
  deriving DecidableEq, Repr

/-- Read the options of a call to start a program in another environment, at most so many. -/
def EnvironmentCall.read (c : EnvironmentCall) : Nat → Except Bytes EnvironmentCall
  | 0 => .ok c
  | limit + 1 =>
    match c.rest with
    | [0x2D] :: rest => { c with bare := true, rest }.read limit
    | [0x2D, 0x2D] :: rest => .ok { c with rest }
    | (0x2D :: letter :: more) :: rest =>
      let next := if more.isEmpty then rest else (0x2D :: more) :: rest
      match Char.ofNat letter.toNat with
      | 'i' => { c with bare := true, rest := next }.read limit
      | '0' => { c with lineEnd := 0, rest := next }.read limit
      | 'u' =>
        match if more.isEmpty then rest else more :: rest with
        | name :: rest => { c with removed := c.removed ++ [name], rest }.read limit
        | [] => .error (Text.Utf8.encode "option requires an argument -- 'u'")
      | 'S' =>
        match if more.isEmpty then rest else more :: rest with
        | text :: rest => { c with rest := wordsOf text ++ rest }.read limit
        | [] => .error (Text.Utf8.encode "option requires an argument -- 'S'")
      | _ => .error (Text.Utf8.encode "invalid option -- " ++ quoted [letter])
    | _ => .ok c

/-- Show the variables, or start a program with them. -/
def runEnvironment (launch : Launch) (ownName : Bytes) (arguments : List Bytes)
    (ctx : ProcessContext) (host : Host) : WaitStatus × Host :=
  let self : Call := ⟨ownName, [], arguments, ctx⟩
  match (EnvironmentCall.mk false [] lineEnd arguments).read (2 * arguments.flatten.length + 2) with
  | .error message => (.exited 125, self.explain message host)
  | .ok c =>
    let start := if c.bare then [] else c.removed.foldl removeVariable ctx.assignments
    let own := c.rest.takeWhile (·.contains Environment.assignmentSign)
    let ctx := { ctx with assignments := own.foldl putVariable start }
    match c.rest.drop own.length with
    | [] => (verdict true, ctx.write 1 (ctx.assignments.flatMap (· ++ [c.lineEnd])) host)
    | name :: arguments =>
      match Image.find host.tree ctx.cwd (ctx.get? "PATH") .always name arguments with
      | .ok image => launch image ctx host
      | .error e =>
        (.exited (if e = .noEntry then 127 else 126), self.complainAbout "" (quoted name) e host)

/-- Show all variables, or the values of some. -/
def Program.printVariables : Program where
  flags := "0"
  valued := ""
  names := []
  needed := 0
  neededName := "operand"
  misused := 2
  run c host :=
    let ending : UInt8 := if c.has '0' then 0 else lineEnd
    if c.operands.isEmpty then
      (verdict true, c.write (c.context.assignments.flatMap (· ++ [ending])) host)
    else
      let values := c.operands.map fun name =>
        ((c.context.assignments.map splitAssignment).find? (·.1 = name)).map (·.2)
      (verdict (values.all (·.isSome)),
        c.write ((values.filterMap id).flatMap (· ++ [ending])) host)

/-- Show where programs are found in the search path. -/
def Program.locate : Program where
  flags := "a"
  valued := ""
  names := []
  needed := 0
  neededName := "operand"
  misused := 2
  run c host :=
    let isProgram := fun (file : Path) =>
      match host.tree.resolve c.context.cwd file with
      | .ok (_, .file _ executable) => executable
      | _ => false
    let path := (c.context.get? "PATH").getD Image.usualSearchPath
    let found := c.operands.map fun name =>
      let files := if name.contains Path.separator then [⟨name⟩]
        else (Image.directories path).map (Image.candidate · name)
      files.find? isProgram
    (verdict (!found.isEmpty && found.all (·.isSome)),
      c.write (nameLines ((found.filterMap id).map (·.bytes))) host)

/-! ## The process -/

/-- Show the directory: as it is, or as the process was told if it asks for that and was told
right. -/
def Program.directory : Program where
  flags := "LP"
  valued := ""
  names := [("logical", 'L'), ("physical", 'P')]
  needed := 0
  neededName := "operand"
  misused := 1
  run c host :=
    let shown := if (c.options.map (·.1)).getLast? = some 'L' then
        Shell.bytesOf (Shell.initialDirectory host.tree c.context)
      else (FileTree.pathOf c.context.cwd).bytes
    let told := if c.operands.isEmpty then host
      else c.complain (Text.Utf8.encode "ignoring non-option arguments") host
    (verdict true, c.write (shown ++ [lineEnd]) told)

/-- Whether a text says how long to wait: a number, with a unit after it or without. -/
def isTimeSpan (text : Bytes) : Bool :=
  let cs := text.map fun b => Char.ofNat b.toNat
  let bare := if cs.getLast?.any ['s', 'm', 'h', 'd'].contains then cs.dropLast else cs
  bare.any (·.isDigit) && bare.all (fun c => c.isDigit || c = '.') && bare.count '.' ≤ 1

/-- Wait, which takes no time here. -/
def Program.sleep : Program where
  flags := ""
  valued := ""
  names := []
  needed := 1
  neededName := "operand"
  misused := 1
  run c host :=
    match c.operands.find? (!isTimeSpan ·) with
    | some span =>
      (verdict false, c.explain (Text.Utf8.encode "invalid time interval " ++ quoted span) host)
    | none => (verdict true, host)

/-- Run a tool with its arguments, its own name first. -/
def run (launch : Launch) (tool : Tool) (arguments : List Bytes) (ctx : ProcessContext)
    (host : Host) : WaitStatus × Host :=
  let ownName := arguments.headD []
  let program := fun (p : Program) (arguments : List Bytes) => p.call arguments ctx host
  match tool with
  | .shell => Shell.main launch arguments ctx host
  | .environment => runEnvironment launch ownName arguments.tail ctx host
  | .printVariables => program .printVariables arguments
  | .locate => program .locate arguments
  | .concatenate => program .concatenate arguments
  | .firstLines => program .firstLines (withCount arguments)
  | .lastLines => program .lastLines (withCount arguments)
  | .count => program .count arguments
  | .distribute => program .distribute arguments
  | .list => program .list arguments
  | .delete => program .delete arguments
  | .removeDirectory => program .removeDirectory arguments
  | .makeDirectory => program .makeDirectory arguments
  | .touch => program .touch arguments
  | .copy => program .copy arguments
  | .move => program .move arguments
  | .link => program .link arguments
  | .setMode => program .setMode arguments
  | .echo => echoArguments arguments.tail ctx host
  | .format => formatArguments ownName arguments.tail ctx host
  | .test => testWords ownName false arguments.tail ctx host
  | .bracket => testWords ownName true arguments.tail ctx host
  | .sequence => program .sequence arguments
  | .lastPart => program .lastPart arguments
  | .parentPart => program .parentPart arguments
  | .directory => program .directory arguments
  | .sleep => program .sleep arguments
  | .succeed => (verdict true, host)
  | .fail => (verdict false, host)

end GoTasks.Tool
