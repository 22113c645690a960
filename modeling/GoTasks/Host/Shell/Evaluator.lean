import GoTasks.Host.Shell.Arithmetic
import GoTasks.Host.Shell.Signal
import GoTasks.Host.Shell.State

/-!
# Values of words

Expanding a word can take a shell of its own, which runs a script whose output is wanted. So what
it takes to run a script is given as an *evaluator*. What an evaluator does is nested less deeply
than what it is used for, so that in the end there is one for every script.

Here is also what a shell does between commands: it waits for processes, acts on signals, and
comes to its end.
-/

namespace GoTasks.Shell

/-- What running commands takes beyond the commands. -/
structure Evaluator where
  /-- Starts a program. -/
  launch : Launch
  /-- Runs the script that a text on a line is. If it is the `last` thing that a process does, the
  program that comes last can take the place of the shell. -/
  run : (last : Bool) → (line : Nat) → (script : Raw) → State → State
  /-- Runs a command that is known by its name, or that has been put off. -/
  call : (last : Bool) → Command → State → State
  /-- Replaces the parts of a word on a line by their values. -/
  expand : (line : Nat) → Word → State → State × List Piece

/-- What a script writes, as it is put into a word: without the line ends at its end. -/
def substitutedText (cs : Raw) : Raw :=
  ((cs.filter (· ≠ '\x00')).reverse.dropWhile (· = '\n')).reverse

namespace Evaluator

/-! ## Processes -/

/-- Act on a signal that has arrived. -/
def actOn (e : Evaluator) (s : State) (signal : Nat) : State :=
  match if signal = Signal.kill then none else s.trap? signal with
  | some action =>
    if action.isEmpty then s
    else
      let after := e.run false 1 action s
      if after.isHalted then after else after.done s.parameters.status
  | none =>
    if Signal.harmless.contains signal || (s.ignored.contains signal && signal ≠ Signal.kill) then s
    else s.die (.signaled (UInt8.ofNat signal))

/-- Act on the signals that have arrived, in order. -/
def deliver (e : Evaluator) (s : State) : State :=
  let (signals, host) := s.host.signalsFor s.process
  signals.foldl
    (fun s signal => match s.halt? with
      | some (.gone _) => s
      | _ => e.actOn s signal)
    { s with host }

/-- Tell what signal has ended a process, if it is worth telling. -/
def tell (s : State) (status : WaitStatus) : State :=
  let signal := status.termination
  if signal = 0 || signal = Signal.interrupt || signal = Signal.pipe then s
  else s.remark (rawText (Signal.text signal))

/-- Go on after a process that was waited for. -/
def await (e : Evaluator) (s : State) (status : WaitStatus) : State :=
  e.deliver ((tell s status).done status.exitCode)

/-- Do what is to be done at the end of a shell. It ends with the status that it would have ended
with anyway, unless it is left again. -/
def runExitTrap (e : Evaluator) (s : State) : State :=
  match s.trap? Signal.exit, s.halt? with
  | none, _ | _, some (.gone _) => s
  | some action, _ =>
    let status := s.finalStatus
    let ready := (s.setTrap Signal.exit none).done status.exitCode
    let after := e.run false 1 action { ready with halt? := none }
    match after.halt? with
    | some (.ended _) | some (.gone _) => after
    | _ => { after with halt? := some (.ended status) }

/-- Run a job that has been put off, unless a signal that has reached it keeps it from running. Its
own jobs are run after it. -/
def finishJob (e : Evaluator) (s : State) (job : Job) : WaitStatus × Host :=
  let (signals, host) := s.host.signalsFor job.process
  let isFatal := fun (signal : Nat) => !Signal.harmless.contains signal &&
    (signal = Signal.kill || (job.frame.traps.lookup signal).isNone)
  match signals.find? isFatal with
  | some signal => (.signaled (UInt8.ofNat signal), host)
  | none =>
    let start := State.ofFrame job.frame job.process s.process host
    let after := e.runExitTrap (e.call true job.body start)
    (after.finalStatus, after.host)

/-- Run a job if it has been put off. -/
def settleJob (e : Evaluator) (s : State) (job : Job) : State :=
  if job.status?.isSome then s
  else
    let (status, host) := e.finishJob s job
    let jobs := s.jobs.map fun other =>
      if other.process = job.process then { other with status? := some status } else other
    { s with host, jobs }

/-- Run the jobs that have been put off, in order. -/
def settle (e : Evaluator) (s : State) : State :=
  s.jobs.foldl e.settleJob s

/-- Run the jobs that have been put off, up to the one of a process. -/
def settleUpTo (e : Evaluator) (s : State) (process : Nat) : State :=
  let before := s.jobs.takeWhile (·.process ≠ process)
  (s.jobs.take (before.length + 1)).foldl e.settleJob s

/-- End a shell: its status, and the host that it leaves. -/
def finish (e : Evaluator) (s : State) : WaitStatus × Host :=
  let ended := e.runExitTrap s
  (ended.finalStatus, (e.settle ended).host)

/-! ## Words -/

def stop (s : State) (line : Nat) (message : Raw) : State :=
  (s.complain line message).abandon

/-- What a script writes that is run in a shell of its own. -/
def substitute (e : Evaluator) (s : State) (line : Nat) (script : Raw) : State × Raw :=
  let (number, host) := s.host.openPipe
  let inner := ({ s with host }.copy).connect 1 (some (.stream number false true))
  let (status, host) := e.finish (e.run true line script { inner with asking := false })
  let text := substitutedText (raw (host.held number))
  let after := { s with host := host.hold number [], substituted := status.exitCode }
  (tell after status, text)

def home? (s : State) : Option Raw :=
  s.parameters.lookUp "HOME".toList

/-- Take the start or the end from the value of a parameter. Of all positional parameters, only the
first or the last one has it. -/
def shorten (p : Parameters) (name : Raw) (quoted atStart : Bool) (cut : Raw → Raw) : Piece :=
  if Parameters.isAll name && !(quoted && name = ['*']) then
    let values := if atStart then p.positional.modifyHead cut
      else (p.positional.reverse.modifyHead cut).reverse
    .each values (p.separators.take 1) quoted
  else .value (cut ((p.value? name).getD [])) quoted

/-- The pieces that the value of a parameter becomes, or what stands in place of it. -/
def parameterPieces (e : Evaluator) (line : Nat) (s : State) (name : Raw) (m : Modifier)
    (quoted : Bool) : State × List Piece :=
  let start : List Piece := if quoted then [.value [] true] else []
  let value := Piece.ofParameter s.parameters name quoted
  let isMissing := fun (emptyToo : Bool) =>
    match s.parameters.value? name with
    | none => true
    | some cs => emptyToo && cs.isEmpty
  let operand := fun (text : Raw) =>
    let w := enclosedWord .braces line quoted text
    let (s, pieces) := e.expand line (if quoted then w else expandTilde (home? s) w) s
    (s, start ++ pieces.map Piece.asValue)
  let insisting := fun (result : State → State × List Piece) =>
    if s.has 'u' && isMissing false then (stop s line (name ++ rawText ": parameter not set"), [])
    else result s
  let cutting := fun (pattern : Raw) (atStart : Bool) (cut : List PatternItem → Raw → Raw) =>
    insisting fun s =>
      let (s, pieces) := e.expand line
        (expandTilde (home? s) (enclosedWord .braces line false pattern)) s
      let items := PatternItem.ofGlyphs (Piece.glyphs pieces)
      (s, start ++ [shorten s.parameters name quoted atStart (cut items)])
  match m with
  | .malformed => (stop s line (rawText "Bad substitution"), [])
  | .plain => insisting fun s => (s, [value])
  | .length =>
    insisting fun s => (s, [.value (toString (s.parameters.lengthOf name)).toList quoted])
  | .unlessSet emptyToo text => if isMissing emptyToo then operand text else (s, start ++ [value])
  | .ifSet emptyToo text => if isMissing emptyToo then (s, start) else operand text
  | .assigned emptyToo text =>
    if !isMissing emptyToo then (s, start ++ [value])
    else if !isName name then (stop s line (name ++ rawText ": bad variable name"), [])
    else
      let (s, pieces) := operand text
      if s.isHalted then (s, [])
      else if s.parameters.isConstant name then
        (stop s line (name ++ rawText ": is read only"), [])
      else
        let cs := Piece.single pieces
        (s.setVariable name cs false, [.value cs quoted])
  | .required emptyToo text =>
    if !isMissing emptyToo then (s, start ++ [value])
    else if text.isEmpty then
      let usual := if emptyToo then ": parameter not set or null" else ": parameter not set"
      (stop s line (name ++ rawText usual), [])
    else
      let (s, pieces) := operand text
      if s.isHalted then (s, [])
      else (stop s line (name ++ [':', ' '] ++ Piece.single pieces), [])
  | .withoutStart longest pattern => cutting pattern true fun items => withoutStart items longest
  | .withoutEnd longest pattern => cutting pattern false fun items => withoutEnd items longest

/-- The pieces that a part of a word on a line becomes. -/
def partPieces (e : Evaluator) (line : Nat) (s : State) : WordPart → State × List Piece
  | .text cs quoted => (s, [.text cs quoted])
  | .parameter name m quoted => e.parameterPieces line s name m quoted
  | .substitution start script _ quoted =>
    let (s, cs) := e.substitute s start script
    (s, [.value cs quoted])
  | .arithmetic expression quoted =>
    let (s, pieces) := e.expand line (enclosedWord .arithmetic line true expression) s
    if s.isHalted then (s, [])
    else
      let text := Piece.single pieces
      match Arithmetic.value s.parameters text with
      | .ok (n, parameters) =>
        ({ s with parameters }, [.value (toString n.toInt).toList quoted])
      | .error fault => (stop s line (fault.message text), [])
  | .document start lines => e.expand line (enclosedWord .document start true lines) s

/-- The pieces that a word on a line becomes. -/
def pieces (e : Evaluator) (line : Nat) : Word → State → State × List Piece
  | [], s => (s, [])
  | part :: rest, s =>
    let (s, first) := e.partPieces line s part
    if s.isHalted then (s, [])
    else
      let (s, others) := e.pieces line rest s
      (s, first ++ others)

def single (e : Evaluator) (line : Nat) (s : State) (w : Word) : State × Raw :=
  let (s, ps) := e.pieces line (expandTilde (home? s) w) s
  (s, Piece.single ps)

def assignedValue (e : Evaluator) (line : Nat) (s : State) (w : Word) : State × Raw :=
  let (s, ps) := e.pieces line (expandTildes (home? s) true w) s
  (s, Piece.single ps)

/-- The commands whose arguments can be assignments. -/
def declares (name : Raw) : Bool :=
  ["export", "readonly", "local", "alias"].contains (String.ofList name)

/-- The fields that a word becomes, after those before it. -/
def wordFields (e : Evaluator) (line : Nat) (s : State) (before : List Raw) (w : Word) :
    State × List Raw :=
  match if (before.dropWhile (· = "command".toList)).head?.any declares then assignment? w
      else none with
  | some (name, value) =>
    let (s, cs) := e.assignedValue line s value
    (s, [name ++ '=' :: cs])
  | none =>
    let (s, ps) := e.pieces line (expandTilde (home? s) w) s
    let fields := Piece.fields s.parameters.separators ps
    (s, if s.has 'f' then fields.map (·.map (·.char))
      else fields.flatMap (Pathname.ofField s.host.tree s.cwd))

def fieldsFrom (e : Evaluator) (line : Nat) (before : List Raw) : List Word → State →
    State × List Raw
  | [], s => (s, before)
  | w :: rest, s =>
    let (s, found) := e.wordFields line s before w
    if s.isHalted then (s, before) else e.fieldsFrom line (before ++ found) rest s

def fields (e : Evaluator) (line : Nat) (s : State) (ws : List Word) : State × List Raw :=
  e.fieldsFrom line [] ws s

def fitsAny (e : Evaluator) (line : Nat) (value : Raw) : List Word → State → State × Bool
  | [], s => (s, false)
  | w :: rest, s =>
    let (s, ps) := e.pieces line (expandTilde (home? s) w) s
    if s.isHalted then (s, false)
    else if fits (PatternItem.ofGlyphs (Piece.glyphs ps)) value then (s, true)
    else e.fitsAny line value rest s

/-- Carry out redirections in order, up to the first that fails. -/
def redirect (e : Evaluator) (line : Nat) (s : State) : List Redirect → Except State State
  | [] => .ok s
  | r :: rest =>
    let (s, target) := e.single line s r.target
    if s.isHalted then .error s
    else
      match s.redirect line r.descriptor r.kind target with
      | .error failed => .error failed
      | .ok s => e.redirect line s rest

end Evaluator
end GoTasks.Shell
