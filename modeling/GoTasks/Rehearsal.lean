import GoTasks.Dispatch

/-!
# Rehearsals

A rehearsal is a run without an operating system. Commands are recorded and answered from a
script, output is collected, and the project and the environment are given. It shows what a
run would do.
-/

namespace GoTasks

abbrev ScriptedOutcome := Except SystemError Completion

/-- The state of a rehearsal: what is left of the script, and what has happened. -/
structure Rehearsal where
  outcomes : List ScriptedOutcome
  calls : List Command
  out : String
  err : String
  usage : String
  loads : Nat

namespace Rehearsal

def start (outcomes : List ScriptedOutcome) : Rehearsal :=
  ⟨outcomes, [], "", "", "", 0⟩

/-- Record a command and answer it from the script. After the end of the script every command
succeeds. -/
def run (command : Command) : StateM Rehearsal (Except StartError Completion) := do
  let state ← get
  set { state with outcomes := state.outcomes.tail, calls := state.calls ++ [command] }
  match state.outcomes with
  | [] => pure (.ok ⟨true, 0⟩)
  | .ok completion :: _ => pure (.ok completion)
  | .error cause :: _ => pure (.error ⟨command.program, cause⟩)

/-- A console that collects what is said, and keeps no log. -/
def console (styled : Bool) : Console (StateM Rehearsal) where
  styled := styled
  out text := modify fun s => { s with out := s.out ++ text }
  err text := modify fun s => { s with err := s.err ++ text }
  log _ := pure ()

/-- A directory without a version file, on a machine without git. -/
def bareSource : Stamp.Source (StateM Rehearsal) where
  now := pure ⟨0, 0⟩
  readFile _ := pure (.error .noEntry)
  git _ _ := pure (.error .noEntry)

/-- The error of writing to a pipe that nobody reads. -/
def brokenPipe : SystemError := .numbered 32

/-- Write the usage: it is collected, unless the pipe is closed. -/
def writeUsage (pipeClosed : Bool) (text : String) :
    StateM Rehearsal (Except SystemError Unit) := do
  if pipeClosed then pure (.error brokenPipe)
  else
    modify fun s => { s with usage := s.usage ++ text }
    pure (.ok ())

def surroundings (styled pipeClosed : Bool) (environment : Environment)
    (project : Except Failure Project) : Surroundings (StateM Rehearsal) where
  console := console styled
  run := run
  stampSource := bareSource
  writeUsage := writeUsage pipeClosed
  flushUsage := pure (if pipeClosed then .error brokenPipe else .ok ())
  loadProject := do
    modify fun s => { s with loads := s.loads + 1 }
    pure project
  environment := pure environment
  refusal _ _ := ""

end Rehearsal
end GoTasks
