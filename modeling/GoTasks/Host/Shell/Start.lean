import GoTasks.Host.Shell.Evaluation

/-!
# Starting a shell

A shell is started with options, and with a script: as an argument, in a file, or as what it can
read. It takes over the variables of its process, and sets some of its own.
-/

namespace GoTasks.Shell

/-- How deep scripts, functions and words can be nested. -/
def depthLimit : Nat := 1000

def usualSearchPath : Raw :=
  "/usr/local/sbin:/usr/local/bin:/usr/sbin:/usr/bin:/sbin:/bin".toList

/-- The variables that every shell has, in the order in which those of a group are kept. -/
def ownVariables : List Variable :=
  [("OPTIND", some "1"), ("PS4", some "+ "), ("PS2", some "> "), ("PS1", some "# "),
   ("PATH", some (String.ofList usualSearchPath)), ("MAILPATH", none), ("MAIL", none),
   ("IFS", some " \t\n")].map fun (name, value?) =>
    ⟨name.toList, value?.map String.toList, false, false⟩

/-- The variable of a process that a shell takes over, if its name can be one of a shell's. -/
def importedVariable? (assignment : Bytes) : Option (Raw × Raw) :=
  let (name, value) := splitAssignment assignment
  if isName (raw name) && name.length < assignment.length then some (raw name, raw value) else none

/-- The directory that a shell shows at its start: what it was told, if that is where it is. -/
def initialDirectory (tree : FileTree) (ctx : ProcessContext) : Raw :=
  let physical := raw (FileTree.pathOf ctx.cwd).bytes
  match ctx.get? "PWD" with
  | none => physical
  | some told =>
    let isThere := (tree.enter ctx.cwd ⟨told⟩).toOption = some ctx.cwd
    if Path.isAbsolute ⟨told⟩ && isThere then raw told else physical

/-- The parameters of a shell at its start. What separates fields is not taken over. -/
def initialParameters (ctx : ProcessContext) (options : List Char) (shown scriptName : Raw)
    (positional : List Raw) : Parameters :=
  let own : Parameters := ⟨scriptName, positional, ownVariables, 0, ctx.number, none, options⟩
  let given := (ctx.assignments.filterMap importedVariable?).foldl
    (fun p (name, value) => p.setVariable name value true) own
  let fixed := [("IFS", " \t\n"), ("OPTIND", "1"), ("PPID", toString ctx.parent)]
  (fixed.foldl (fun p (name, value) => p.setVariable name.toList value.toList false)
    given).setVariable Builtin.directoryName shown true

/-- A shell at its start, with the name of its script and its positional parameters. -/
def initialState (ctx : ProcessContext) (host : Host) (options : List Char) (scriptName : Raw)
    (positional : List Raw) : State :=
  let shown := initialDirectory host.tree ctx
  State.ofFrame
    { parameters := initialParameters ctx options shown scriptName positional
      cwd := ctx.cwd
      shownDirectory := shown
      channels := ctx.channels
      functions := []
      aliases := []
      traps := []
      ignored := ctx.ignored
      mask := 0o022
      asking := false
      loops := 0
      optionOffset? := none
      behalf? := none }
    ctx.number ctx.parent host

/-- Run the script in a file. A directory is read like an empty script. -/
def runFile (e : Evaluator) (ctx : ProcessContext) (host : Host) (options : List Char)
    (ownName name : Raw) (positional : List Raw) : State :=
  match host.tree.read ctx.cwd ⟨bytesOf name⟩ with
  | .ok content =>
    e.run false 1 (raw content) (initialState ctx host options name positional)
  | .error fault =>
    if fault = .isDirectory then initialState ctx host options name positional
    else
      ((initialState ctx host options ownName []).complain 0
        (rawText "cannot open " ++ name ++ [':', ' '] ++ reason "No such file" fault)).abandon

def runInput (e : Evaluator) (ctx : ProcessContext) (host : Host) (options : List Char)
    (ownName : Raw) (positional : List Raw) : State :=
  let (script, host) := ctx.readAll host
  e.run false 1 (raw script) (initialState ctx host options ownName positional)

def runArguments (e : Evaluator) (ctx : ProcessContext) (host : Host) (ownName : Raw)
    (arguments : List Raw) : State :=
  match readOptions true [] arguments with
  | .error message => ((initialState ctx host [] ownName []).complain 0 message).abandon
  | .ok r =>
    match r.givesScript, r.rest with
    | true, [] =>
      ((initialState ctx host [] ownName []).complain 0
        (rawText "-c requires an argument")).abandon
    | true, [script] => e.run false 1 script (initialState ctx host r.options ownName [])
    | true, script :: name :: positional =>
      e.run false 1 script (initialState ctx host r.options name positional)
    | false, [] => runInput e ctx host ('s' :: r.options) ownName []
    | false, name :: positional =>
      if r.options.contains 's' then runInput e ctx host r.options ownName r.rest
      else runFile e ctx host r.options ownName name positional

/-- Run a shell with its arguments, its own name first. -/
def main (launch : Launch) (arguments : List Bytes) (ctx : ProcessContext) (host : Host) :
    WaitStatus × Host :=
  let e := evaluator launch depthLimit
  e.finish (runArguments e ctx host (raw (arguments.headD [])) (arguments.tail.map raw))

end GoTasks.Shell
