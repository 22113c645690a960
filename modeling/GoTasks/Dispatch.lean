import GoTasks.Arguments
import GoTasks.Verb.Planning
import GoTasks.Verb.Usage

/-!
# Dispatch

A run goes from a verb to an exit code. It may print the usage, load the project, run
commands and report a failure; which of these happens, and in which order, is decided here
and nowhere else.

The usage goes to a writer of its own. Whether writing to it works is never asked, so a
reader who closed the pipe does not change the exit code.

The log is told which verb is done, and whatever of the arguments made no difference to it.
-/

namespace GoTasks

/-- What a run asks of its surroundings, with effects in `m`. -/
structure Surroundings (m : Type → Type) where
  console : Console m
  run : Runner m
  stampSource : Stamp.Source m
  writeUsage : String → m (Except SystemError Unit)
  flushUsage : m (Except SystemError Unit)
  loadProject : m (Except Failure Project)
  environment : m Environment
  /-- How the reader of command lines explains that it refuses one. -/
  refusal : List Bytes → Arguments.Fault → String

/-- Surroundings that log no events but those wanted. -/
def Surroundings.filtered {m : Type → Type} [Monad m] (wanted : LogEvent → Bool)
    (s : Surroundings m) : Surroundings m :=
  { s with console := s.console.filtered wanted }

namespace Dispatch

variable {m : Type → Type} [Monad m]

/-- The exit code of a run that did what it was asked. -/
def successExitCode : Int := 0

/-- Print the usage, whether or not anyone can read it. -/
def printUsage (s : Surroundings m) : m Unit := do
  let _ ← s.writeUsage Usage.text
  let _ ← s.flushUsage
  pure ()

/-- Report a failure and end with its exit code. -/
def fail (s : Surroundings m) (f : Failure) : m Int := do
  s.console.err (Report.failure s.console.styled f)
  pure f.exitCode

/-- Report a failure, print the usage, and end with the failure's exit code. -/
def reject (s : Surroundings m) (f : Failure) : m Int := do
  s.console.err (Report.failure s.console.styled f)
  printUsage s
  pure f.exitCode

/-- Print the usage and end well. -/
def showUsage (s : Surroundings m) : m Int := do
  printUsage s
  pure successExitCode

def successMessage (v : Verb) : String :=
  v.name ++ " finished"

/-- Plan a verb for a project, and execute the plan. -/
def perform (s : Surroundings m) (v : Verb) (project : Project) : m Int := do
  let environment ← s.environment
  let plan ← v.plan s.console.log s.stampSource ⟨project, environment, none⟩
  s.console.log (.planned plan.steps.length project.root)
  match ← plan.execute s.console s.run with
  | .ok () =>
    s.console.out (Report.success s.console.styled (successMessage v))
    pure successExitCode
  | .error f => fail s f

/-- Load the project and perform a verb on it. -/
def performOnProject (s : Surroundings m) (v : Verb) : m Int := do
  match ← s.loadProject with
  | .error f => fail s f
  | .ok project => perform s v project

/-- Do what a known verb asks for. -/
def performVerb (s : Surroundings m) (v : Verb) : m Int := do
  s.console.log (.dispatching v)
  if v.needsProject then performOnProject s v else showUsage s

end Dispatch

variable {m : Type → Type} [Monad m]

/-- Do what a verb asks for, and give the exit code. -/
def dispatch (s : Surroundings m) (verb? : Option String) : m Int :=
  match verb? with
  | none => Dispatch.showUsage s
  | some text =>
    match Verb.ofName? text with
    | none => Dispatch.reject s (.unknownVerb text)
    | some v => Dispatch.performVerb s v

namespace Dispatch

/-- Tell the log which arguments are ignored, if any are. -/
def noteIgnored (s : Surroundings m) (ignored : List String) : m Unit :=
  if ignored = [] then pure () else s.console.log (.argumentsIgnored ignored)

def invoke (s : Surroundings m) (invocation : Invocation) : m Int := do
  noteIgnored s invocation.ignored
  dispatch s invocation.verb?

/-- Reject a command line that was refused, as if its first argument were an unknown verb. -/
def refuse (s : Surroundings m) (arguments : List Bytes) (fault : Arguments.Fault) : m Int := do
  s.console.log (.argumentsRefused (s.refusal arguments fault))
  reject s (.unknownVerb (Arguments.refusedVerb arguments))

end Dispatch

/-- Run a whole command line, and give the exit code. -/
def runArguments (s : Surroundings m) (arguments : List Bytes) : m Int :=
  match Arguments.parse arguments with
  | .ok invocation => Dispatch.invoke s invocation
  | .error fault => Dispatch.refuse s arguments fault

end GoTasks
