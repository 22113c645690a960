import GoTasks.Host.Shell.Builtin
import GoTasks.Host.Shell.Evaluator

/-!
# Running commands

Evaluation follows the tree of a command. A simple command is expanded, its redirections are
carried out, and it is run: as a function if there is one of its name, by the shell itself if it
is one of its own commands, and otherwise by starting a program. Once the shell has halted,
nothing more happens until what is broken off has been left.

A command that comes last in a process other than that of the main script takes the place of the
shell: it is then the process that ends.
-/

namespace GoTasks.Shell

def notFoundCode : Nat := 127

/-- The exit code of a command that is found and cannot be started. -/
def notStartableCode : Nat := 126

def Command.isNothing : Command → Bool
  | .nothing => true
  | _ => false

namespace State

/-! ## Programs -/

/-- The program that a name stands for, with its arguments. -/
def image (s : State) (name : Raw) (arguments : List Raw) : Except SystemError Image :=
  if name.isEmpty then .error .permissionDenied
  else if s.searchPath?.isNone && !name.contains '/' then .error .noEntry
  else
    Image.find s.host.tree s.cwd s.searchPath? .always (bytesOf name) (arguments.map bytesOf)

def refuseProgram (s : State) (line : Nat) (name : Raw) (e : SystemError) : State :=
  let missing := e = .noEntry || e = .notDirectory || (s.programFile? name).isNone
  let code := if missing then notFoundCode else notStartableCode
  (s.complain line (name ++ rawText ": " ++ reason "not found" e)).done code

/-- Whether a command that comes last takes the place of the shell: not if the shell has something
to do at its end. -/
def givesWay (s : State) (last : Bool) : Bool :=
  last && s.traps.all (·.2.isEmpty)

/-- Start a program and wait for it. While it does nothing but wait, the jobs are run. -/
def startProgram (e : Evaluator) (last : Bool) (line : Nat) (name : Raw) (arguments : List Raw)
    (s : State) : State :=
  match s.image name arguments with
  | .error fault => s.refuseProgram line name fault
  | .ok image =>
    let s := if image.tool = .sleep then e.settle s else s
    if s.givesWay last then
      let (status, host) := e.launch image (s.childContext s.process s.parent) s.host
      { s with host }.die status
    else
      let (number, host) := s.host.addProcess
      let (status, host) := e.launch image (s.childContext number s.process) host
      e.await { s with host } status

/-- Put a program in the place of the shell. The script ends if that is not possible. -/
def replaceByProgram (e : Evaluator) (line : Nat) (name : Raw) (arguments : List Raw) (s : State) :
    State :=
  match s.image name arguments with
  | .error fault =>
    let refused := { s with behalf? := some "exec".toList }.refuseProgram line name fault
    let missing := fault = .noEntry || fault = .notDirectory
    refused.leave (if missing then notFoundCode else notStartableCode)
  | .ok image =>
    let (status, host) := e.launch image (s.childContext s.process s.parent) s.host
    { s with host }.die status

/-! ## Commands of the shell that run others -/

/-- Run something on behalf of a command. -/
def onBehalf (name : Raw) (run : State → State) (s : State) : State :=
  { run { s with behalf? := some name } with behalf? := s.behalf? }

def runWords (e : Evaluator) (line : Nat) (ws : List Raw) (s : State) : State :=
  s.onBehalf "eval".toList (e.run false line (Parameters.joinedBy [' '] ws))

/-- The file that a script is looked for in: in the directories of the search path, unless its
name says where it is. -/
def scriptFile (s : State) (name : Raw) : Option Raw :=
  if name.contains '/' then some name
  else
    ((Image.directories (s.searchPath?.getD [])).map (Image.candidate · (bytesOf name))).find?
      (s.host.tree.isFile s.cwd) |>.map fun file => raw file.bytes

def runScriptFile (e : Evaluator) (line : Nat) (name : Raw) (s : State) : Builtin.Outcome :=
  match s.scriptFile name with
  | none => Builtin.giveUp s line "." (name ++ rawText ": not found")
  | some file =>
    match s.host.tree.read s.cwd ⟨bytesOf file⟩ with
    | .ok content => .ok (s.onBehalf file fun s => (e.run false 1 (raw content) s).endCall)
    | .error fault =>
      Builtin.giveUp s line "."
        (rawText "cannot open " ++ file ++ [':', ' '] ++ reason "No such file" fault)

/-- Wait for one job, with its exit code as the result. -/
def waitForOne (e : Evaluator) (line : Nat) (s : State) (argument : Raw) : Builtin.Outcome :=
  match Builtin.process? s argument with
  | .error message => Builtin.giveUp s line "wait" message
  | .ok none => .ok (s.done notFoundCode)
  | .ok (some process) =>
    let after := e.settleUpTo s process
    match (after.jobs.find? (·.process = process)).bind (·.status?) with
    | some status => .ok (e.await after status)
    | none => .ok (after.done notFoundCode)

/-- Wait for some jobs, or for all of them. -/
def wait (e : Evaluator) (line : Nat) (arguments : List Raw) (s : State) : Builtin.Outcome :=
  if arguments.isEmpty then .ok ((e.deliver { e.settle s with jobs := [] }).done 0)
  else arguments.foldlM (waitForOne e line) s

/-- Tell what names stand for, in words or not. -/
def describeFor (inWords : Bool) (names : List Raw) (s : State) : Builtin.Outcome :=
  .ok (s.describeAll inWords names)

def action? (e : Evaluator) (name : Raw) : Option Builtin.Action :=
  match String.ofList name with
  | "eval" => some fun s line ws => .ok (s.runWords e line ws)
  | "." => some fun s line ws =>
    match ws with
    | [] => .ok (s.done 0)
    | file :: _ => s.runScriptFile e line file
  | "exec" => some fun s line ws =>
    match if ws.head? = some ['-', '-'] then ws.tail else ws with
    | [] => .ok (s.done 0)
    | program :: arguments => .ok (s.replaceByProgram e line program arguments)
  | "wait" => some fun s line ws => s.wait e line ws
  | "fg" | "bg" => some fun s line _ =>
    Builtin.giveUp s line (String.ofList name) (rawText "No current job")
  | "type" => some fun s _ ws => s.describeFor true ws
  | "hash" => some fun s line ws =>
    Builtin.withOptions s line "hash" "r" ws fun options names =>
      .ok (if options.isEmpty then s.findAll line names else s.done 0)
  | "command" => some fun s line ws =>
    match ownOptions "pvV" ws with
    | .error message => Builtin.giveUp s line "command" message
    | .ok (options, rest) =>
      if options.isEmpty then .ok (s.done 0) else s.describeFor (options.contains 'V') (rest.take 1)
  | _ => Builtin.ofName? name

/-- Run a command of the shell. If it gives up and is special, the script ends. -/
def runAction (action : Builtin.Action) (special : Bool) (line : Nat) (name : Raw)
    (arguments : List Raw) (s : State) : State :=
  match action { s with unwritten := false } line arguments with
  | .error failed =>
    if special && !failed.isHalted then failed.leave failed.parameters.status else failed
  | .ok after =>
    if after.unwritten then
      let text := name ++ rawText ": I/O error"
      ({ after with unwritten := false }.complainPlainly line (name ++ [':', ' '] ++ text)).done 1
    else after

/-! ## Simple commands -/

def runFunction (e : Evaluator) (body : Command) (arguments : List Raw) (s : State) : State :=
  let inside := { s.setPositional arguments with loops := 0, optionOffset? := none }
  let after := (e.call false body inside.beginKeeping).endCall.endKeeping
  { after.setPositional s.parameters.positional with
    loops := s.loops
    optionOffset? := s.optionOffset? }

/-- Assign values to variables, one after the other. If that is `brief`, they will be put back, and
are given to programs until then. The assignments are told, too, as they would be written. -/
def assignAll (e : Evaluator) (brief : Bool) (line : Nat) :
    List (Raw × Word) → State → State × List Raw
  | [], s => (s, [])
  | (name, w) :: rest, s =>
    let (s, value) := e.assignedValue line s w
    if s.isHalted then (s, [])
    else if s.parameters.isConstant name then
      (Evaluator.stop s line (name ++ rawText ": is read only"), [])
    else
      let s := if name = "OPTIND".toList then { s with optionOffset? := none } else s
      let kept := if brief then s.keep name else s
      let (s, others) := assignAll e brief line rest (kept.setVariable name value brief)
      (s, (name ++ '=' :: value) :: others)

/-- Show a command before it is run, if that is wanted, where complaints went before. -/
def trace (before : State) (words : List Raw) (s : State) : State :=
  if s.has 'x' then
    let text := (s.parameters.lookUp "PS4".toList).getD [] ++ Parameters.joinedBy [' '] words
    match before.channels.lookup 2 with
    | some channel => { s with host := s.host.write channel (bytesOf (text ++ ['\n'])) }
    | none => s
  else s

/-- A command without the words in front that make it one of the shell or a program, and whether
there were any. -/
def unwrapped (fields : List Raw) : Bool × List Raw :=
  match fields with
  | ['c', 'o', 'm', 'm', 'a', 'n', 'd'] :: rest =>
    match ownOptions "p" rest with
    | .ok (_, name :: arguments) => (true, name :: arguments)
    | _ => (false, fields)
  | _ => (false, fields)

/-- Whether a command is special for the shell, if it is called by its name alone. -/
def isSpecialCall (fields : List Raw) : Bool :=
  let (wrapped, rest) := unwrapped fields
  !wrapped && rest.head?.any Builtin.isSpecial

/-- Run a command whose words have been expanded, and tell it before. -/
def runNamed (e : Evaluator) (last : Bool) (before : State) (c : SimpleCommand) (fields : List Raw)
    (s : State) : State :=
  let (wrapped, rest) := unwrapped fields
  let special := isSpecialCall fields
  let (s, told) := assignAll e (!special && !fields.isEmpty) c.line c.assignments
    (if special || fields.isEmpty then s else s.beginKeeping)
  if s.isHalted then s
  else
    let s := if told.isEmpty && fields.isEmpty then s else trace before (told ++ fields) s
    match rest with
    | [] => s.done s.substituted
    | name :: arguments =>
      let after := match if wrapped || special then none else s.function? name, action? e name with
        | some body, _ => s.runFunction e body arguments
        | none, some action => s.runAction action special c.line name arguments
        | none, none => s.startProgram e last c.line name arguments
      if special then after else after.endKeeping

/-- End a strict shell after a failure that nobody asked for. -/
def insist (s : State) : State :=
  if s.has 'e' && !s.asking && !s.isHalted && s.parameters.status ≠ 0 then
    s.leave s.parameters.status
  else s

/-- Whether the redirections of a command stay after it. -/
def keepsRedirects (fields : List Raw) : Bool :=
  (unwrapped fields).2.head? = some "exec".toList

def runSimple (e : Evaluator) (last : Bool) (c : SimpleCommand) (s : State) : State :=
  let (s, fields) := e.fields c.line { s with substituted := 0 } c.words
  if s.isHalted then s
  else
    let descriptors := c.redirects.map (·.descriptor)
    match e.redirect c.line s c.redirects with
    | .error failed =>
      let back := s.reconnect failed descriptors
      if back.isHalted then back
      else if isSpecialCall fields then back.leave back.parameters.status
      else back.insist
    | .ok ready =>
      let after := runNamed e last s c fields ready
      let back := if keepsRedirects fields then after else s.reconnect after descriptors
      (if back.isHalted then back else e.deliver back).insist

/-! ## Commands that put others together -/

/-- Run something to learn whether it fails. -/
def ask (run : State → State) (s : State) : State :=
  { run { s with asking := true } with asking := s.asking }

/-- Run a loop. What breaks it off does not reach beyond it, unless it breaks off more loops. -/
def loop (run : State → State) (s : State) : State :=
  { (run { s with loops := s.loops + 1 }).endLoop with loops := s.loops }

def loopLimit : Nat := 100000

/-- Repeat something as long as a test succeeds, or fails. The exit code is that of the last
turn. -/
def repeatedly (succeeding : Bool) (test body : State → State) : Nat → Nat → State → State
  | 0, code, s => s.done code
  | limit + 1, code, s =>
    let tested := test s
    if tested.isHalted then tested
    else if decide (tested.parameters.status = 0) ≠ succeeding then tested.done code
    else
      let after := (body tested).endTurn
      if after.isHalted then after
      else repeatedly succeeding test body limit after.parameters.status after

def forEach (line : Nat) (name : Raw) (body : State → State) : List Raw → State → State
  | [], s => s
  | value :: rest, s =>
    if s.parameters.isConstant name then
      Evaluator.stop s line (name ++ rawText ": is read only")
    else
      let after := (body (s.setVariable name value false)).endTurn
      if after.isHalted then after else forEach line name body rest after

/-- Run something in a copy of the shell, and wait for it. If the copy comes last, it takes the
place of the shell. -/
def inCopy (e : Evaluator) (last : Bool) (run : State → State) (s : State) : State :=
  let (status, host) := e.finish (run s.copy)
  if s.givesWay last then { s with host }.die status else e.await { s with host } status

/-- Run something with redirections. If they fail, it is not run. -/
def redirected (e : Evaluator) (line : Nat) (redirects : List Redirect) (run : State → State)
    (s : State) : State :=
  let descriptors := redirects.map (·.descriptor)
  match e.redirect line s redirects with
  | .error failed => s.reconnect failed descriptors
  | .ok ready => s.reconnect (run ready) descriptors

/-- Run something in a copy of the shell with redirections, which is left if they fail. -/
def redirectedCopy (e : Evaluator) (line : Nat) (redirects : List Redirect) (run : State → State)
    (copy : State) : State :=
  match e.redirect line copy redirects with
  | .error failed => if failed.isHalted then failed else failed.leave failed.parameters.status
  | .ok ready => run ready

/-- Run something that writes into a pipe, and then something that reads from it, each in a copy of
the shell. -/
def pipe (e : Evaluator) (first second : State → State) (s : State) : State :=
  let (number, host) := s.host.openPipe
  let start := { s with host }
  let (status, host) := e.finish (first (start.copy.connect 1 (some (.stream number false true))))
  let between := Evaluator.tell { s with host } status
  let reader := between.copy.connect 0 (some (.stream number true false))
  let (status, host) := e.finish (second reader)
  e.await { between with host := host.hold number [] } status

/-- Put a command off. It has nothing to read unless it says so. -/
def detach (body : Command) (s : State) : State :=
  let (process, host) := s.host.addProcess
  let frame := { (s.connect 0 (some .nowhere)).copiedFrame with asking := false }
  let jobs := s.jobs ++ [⟨process, frame, body, none⟩]
  let parameters := { s.parameters with lastJob? := some process }
  { s with host, jobs, parameters }.done 0

end State

/-- Run a command. If it is the `last` thing that a process does, a program can take the place of
the shell. -/
def Command.run (e : Evaluator) : Command → Bool → State → State
  | .nothing, _, s => s
  | .simple c, last, s => if s.has 'n' then s else s.runSimple e last c
  | .sequence first second, last, s =>
    let s := first.run e (last && second.isNothing) s
    if s.isHalted then s else second.run e last s
  | .andThen first second, last, s =>
    let s := s.ask (first.run e false)
    if s.isHalted || s.parameters.status ≠ 0 then s else second.run e last s
  | .orElse first second, last, s =>
    let s := s.ask (first.run e false)
    if s.isHalted || s.parameters.status = 0 then s else second.run e last s
  | .negated c, _, s =>
    let s := s.ask (c.run e false)
    if s.isHalted then s else s.done (if s.parameters.status = 0 then 1 else 0)
  | .conditional test yes no, last, s =>
    let s := s.ask (test.run e false)
    if s.isHalted then s
    else if s.parameters.status = 0 then yes.run e last s
    else if no.isNothing then s.done 0
    else no.run e last s
  | .choice line subject ps body otherwise, last, s =>
    let (s, value) := e.single line s subject
    if s.isHalted then s
    else
      let (s, found) := e.fitsAny line value ps s
      if s.isHalted then s
      else if found then
        if body.isNothing then s.done 0 else body.run e last s
      else if otherwise.isNothing then s.done 0
      else otherwise.run e last s
  | .piped first second, _, s =>
    if s.has 'n' then s else (s.pipe e (first.run e true) (second.run e true)).insist
  | .enclosed body, last, s => if s.has 'n' then s else (s.inCopy e last (body.run e true)).insist
  | .detached body, _, s => if s.has 'n' then s else s.detach body
  | .each line name values body, _, s =>
    let (s, fields) := e.fields line s values
    if s.isHalted then s
    else (s.done 0).loop (State.forEach line name (body.run e false) fields)
  | .repeated succeeding test body, _, s =>
    s.loop
      (State.repeatedly succeeding (State.ask (test.run e false)) (body.run e false)
        State.loopLimit 0)
  | .redirected line redirects (.enclosed body), last, s =>
    if s.has 'n' then s
    else (s.inCopy e last (State.redirectedCopy e line redirects (body.run e true))).insist
  | .redirected line redirects body, _, s =>
    if s.has 'n' then s else s.redirected e line redirects (body.run e false)
  | .definition name body, _, s =>
    if s.has 'n' then s
    else { s with functions := (name, body) :: s.functions.filter (·.1 ≠ name) }.done 0

/-- How many lines aliases can add to a script. -/
def lineLimit : Nat := 10000

/-- Run commands line by line, at most so many, up to the first that cannot be read, which ends the
script. -/
def runLines (e : Evaluator) (last : Bool) : Nat → List PlacedToken → State → State
  | 0, _, s => s
  | limit + 1, tokens, s =>
    match nextCommand s.aliases tokens with
    | .error fault =>
      (s.complain fault.line (rawText "Syntax error: " ++ fault.message)).abandon
    | .ok none => s
    | .ok (some (c, left)) =>
      let after := c.run e (last && (skipLineEnds left).all (·.token = .scriptEnd)) s
      if after.isHalted then after else runLines e last limit left after

/-- How deep scripts can stand within words of scripts. -/
def nestingLimit : Nat := 50

/-- Run a script that starts on a line. One without commands succeeds. -/
def runText (e : Evaluator) (last : Bool) (line : Nat) (script : Raw) (s : State) : State :=
  let tokens := checkedTokens nestingLimit line script
  let s := if (skipLineEnds tokens).all (·.token = .scriptEnd) then s.done 0 else s
  runLines e last (tokens.length + lineLimit) tokens s

/-- The evaluator for scripts, functions and words that are nested at most so deep. -/
def evaluator (launch : Launch) : Nat → Evaluator
  | 0 =>
    { launch
      run := fun _ _ _ s => s.abandon
      call := fun _ _ s => s.abandon
      expand := fun _ _ s => (s.abandon, []) }
  | depth + 1 =>
    let e := evaluator launch depth
    { launch, run := runText e, call := fun last c => c.run e last, expand := e.pieces }

end GoTasks.Shell
