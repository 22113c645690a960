import GoTasks.Command
import GoTasks.Failure
import GoTasks.Host.Tool

/-!
# Running commands on a host

A command is started in three steps, each of which can fail: its strings must be fit for a
system call, its directory must exist, and its program must be found. Once started it runs to
its end, and so do the programs it starts in turn, to a depth that nothing sensible reaches.
-/

namespace GoTasks.Host

/-- How deep programs can start programs. -/
def depthLimit : Nat := 200

/-- Run a program to its end, when programs can start each other so many times. -/
def runImage : Nat → Launch
  | 0, _, _, host => (.exited 1, host)
  | depth + 1, image, ctx, host => image.tool.run (runImage depth) image.arguments ctx host

/-- A program run to its end. -/
def launch : Launch := runImage depthLimit

/-- Whether a command holds a zero byte, which no system call can take. -/
def holdsZeroByte (c : Command) : Bool :=
  c.argv.any (fun s => (Text.Utf8.encode s).contains 0) ||
    c.environment.vars.any (fun (name, value) => name.contains 0 || value.contains 0) ||
    c.directory.bytes.contains 0

/-- What a command will run and in which directory. -/
def prepare (h : Host) (cwd : Location) (c : Command) :
    Except SystemError (Image × Location) := do
  if holdsZeroByte c then .error .zeroByte
  let directory ← h.tree.enter cwd c.directory
  let image ← Image.find h.tree directory (c.environment.getText? "PATH") .searched
    (Text.Utf8.encode c.program) (c.arguments.map Text.Utf8.encode)
  pure (image, directory)

/-- The number of the process that starts the others. -/
def ownNumber : Nat := 4710

/-- Run a program as a process of its own, without anything to read. Signals that are for none of
the processes that it starts are lost. -/
def execute (h : Host) (image : Image) (environment : Environment) (directory : Location)
    (output complaints : Channel) : WaitStatus × Host :=
  let (number, ready) := h.addProcess
  let channels := [(0, .nowhere), (1, output), (2, complaints)]
  let (status, after) :=
    launch image ⟨number, ownNumber, environment.assignments, directory, channels, []⟩ ready
  (status, { after with sent := [] })

/-- Run a command with the streams of the host, and without anything to read. -/
def runCommand (h : Host) (cwd : Location) (c : Command) : Except StartError Completion × Host :=
  match h.prepare cwd c with
  | .error e => (.error ⟨c.program, e⟩, h)
  | .ok (image, directory) =>
    let (status, after) := h.execute image c.environment directory .out .err
    (.ok status.completion, after)

/-- What git answers in a directory: its status and its output. What it complains about is
dropped. -/
def askGit (h : Host) (cwd : Location) (environment : Environment) (directory : Path)
    (arguments : List String) : Except SystemError (WaitStatus × Bytes) × Host :=
  let found : Except SystemError (Image × Location) := do
    if directory.bytes.contains 0 then .error .zeroByte
    let place ← h.tree.enter cwd directory
    let image ← Image.find h.tree place (environment.getText? "PATH") .never
      (Text.Utf8.encode "git") (arguments.map Text.Utf8.encode)
    pure (image, place)
  match found with
  | .error e => (.error e, h)
  | .ok (image, place) =>
    let (number, ready) := h.openPipe
    let (status, after) :=
      ready.execute image environment place (.stream number false true) .nowhere
    (.ok (status, after.held number), after)

end GoTasks.Host
