import GoTasks.Command
import GoTasks.Completion
import GoTasks.Log.Event
import GoTasks.Report

/-!
# Plans

A plan is a list of labelled commands. It is executed in order, and the first step that
cannot be started or does not succeed ends it: no later command is run.

Execution is written over any monad. The runner and the console are parameters, so the same
definition is run against the operating system, against a scripted runner, and reasoned about
with a runner of arbitrary state.
-/

namespace GoTasks

/-- A command with the label it is reported under. -/
structure Step where
  label : String
  command : Command
  deriving DecidableEq

/-- Commands to be run in order. -/
structure Plan where
  steps : List Step
  deriving DecidableEq

/-- Whatever runs commands, with effects in `m`. -/
abbrev Runner (m : Type → Type) :=
  Command → m (Except StartError Completion)

/-- Where a run speaks to its reader, and where it keeps its log. -/
structure Console (m : Type → Type) where
  styled : Bool
  out : String → m Unit
  err : String → m Unit
  log : LogEvent → m Unit

namespace Console

variable {m : Type → Type} [Monad m]

/-- A console that logs no events but those wanted. -/
def filtered (wanted : LogEvent → Bool) (console : Console m) : Console m :=
  { console with log := fun e => if wanted e then console.log e else pure () }

end Console

/-- The event that tells the log what became of a command, which took some time. -/
def LogEvent.ofResult (c : Command) (elapsed : Elapsed) :
    Except StartError Completion → LogEvent
  | .error e => .couldNotStart e.program e.cause.message
  | .ok completion =>
    if completion.succeeded then .finished c.program elapsed
    else .ranAndFailed c.program completion.exitCode

/-- A runner that tells the log which commands it starts, and what becomes of each. -/
def Runner.logged {m : Type → Type} [Monad m] (log : LogEvent → m Unit)
    (elapsed : Command → Elapsed) (run : Runner m) : Runner m := fun c => do
  log (.spawning c.display c.directory)
  let result ← run c
  log (.ofResult c (elapsed c) result)
  pure result

/-- The failure that a step's result amounts to, if it is one. -/
def Step.failure? (step : Step) : Except StartError Completion → Option Failure
  | .error e => some (.toolNotStarted step.label e)
  | .ok c =>
    if c.succeeded then none
    else some (.toolFailed step.label step.command.program c.exitCode)

/-- A failure of the step with a label, when steps with further labels were still to come. -/
def Failure.skipping (f : Failure) (label : String) (skipped : List String) : Failure :=
  if skipped = [] then f else .sequenceAborted label skipped f

namespace Plan

def empty : Plan := ⟨[]⟩

def single (step : Step) : Plan := ⟨[step]⟩

/-- A plan with a step added at its end. -/
def push (plan : Plan) (step : Step) : Plan := ⟨plan.steps ++ [step]⟩

/-- The labels of a plan, in order. -/
def labels (plan : Plan) : List String := plan.steps.map (·.label)

variable {m : Type → Type} [Monad m]

def runStep (console : Console m) (run : Runner m) (step : Step) :
    m (Except StartError Completion) := do
  console.log (.running step.label step.command.display)
  console.out (Report.stepBanner console.styled step.label step.command.display)
  run step.command

/-- Run steps in order up to the first failure. -/
def executeSteps (console : Console m) (run : Runner m) : List Step → m (Except Failure Unit)
  | [] => pure (.ok ())
  | step :: rest => do
    let result ← runStep console run step
    match step.failure? result with
    | none => executeSteps console run rest
    | some f => pure (.error (f.skipping step.label (rest.map (·.label))))

/-- Run the steps of a plan in order up to the first failure. -/
def execute (console : Console m) (run : Runner m) (plan : Plan) : m (Except Failure Unit) :=
  executeSteps console run plan.steps

@[simp] theorem steps_push (plan : Plan) (step : Step) :
    (plan.push step).steps = plan.steps ++ [step] := rfl

@[simp] theorem executeSteps_nil (console : Console m) (run : Runner m) :
    executeSteps console run [] = pure (.ok ()) := rfl

end Plan
end GoTasks
