import GoTasks.Hint
import GoTasks.SystemError

/-!
# Failures

Everything that can go wrong in a run is one of five failures. A step that failed while
others were still to come is wrapped, and the wrapper names the steps that were skipped; it
adds nothing else. So the *root* of a failure decides its exit code and its hint.
-/

namespace GoTasks

/-- A command that never ran, and why. -/
structure StartError where
  program : String
  cause : SystemError
  deriving DecidableEq, Repr

namespace StartError

def message (e : StartError) : String :=
  "could not start `" ++ e.program ++ "`: " ++ e.cause.message

def isNotFound (e : StartError) : Bool :=
  e.cause.isNotFound

end StartError

/-- What can go wrong in a run. -/
inductive Failure where
  /-- The verb is not a known one. -/
  | unknownVerb (verb : String)
  /-- A tool ran and did not succeed. -/
  | toolFailed (step program : String) (exitCode : Int)
  /-- A tool could not be started. -/
  | toolNotStarted (step : String) (cause : StartError)
  /-- A step failed and the steps after it were skipped. -/
  | sequenceAborted (step : String) (skipped : List String) (cause : Failure)
  /-- The project or its configuration is unusable. The causes go from the outermost to the
  innermost. -/
  | configuration (message : String) (causes : List String) (hint? : Option String)
  deriving DecidableEq, Repr

namespace Failure

/-- The exit code of failures in usage and configuration. -/
def usageExitCode : Int := 1

def notStartedExitCode : Int := 127

def listLabels (labels : List String) : String :=
  ", ".intercalate labels

def message : Failure → String
  | unknownVerb verb => "unknown command '" ++ verb ++ "'"
  | toolFailed step program code =>
    step ++ " failed: `" ++ program ++ "` exited with code " ++ toString code
  | toolNotStarted step cause => step ++ " failed: " ++ cause.message
  | sequenceAborted step skipped _ => step ++ " aborted, skipped: " ++ listLabels skipped
  | configuration message _ _ => "Configuration error: " ++ message

/-- The failure inside all wrappers. -/
def root : Failure → Failure
  | sequenceAborted _ _ cause => cause.root
  | failure => failure

/-- The exit code that a failure ends the run with. -/
def exitCode : Failure → Int
  | unknownVerb _ | configuration .. => usageExitCode
  | toolFailed _ _ code => code
  | toolNotStarted .. => notStartedExitCode
  | sequenceAborted _ _ cause => cause.exitCode

/-- What a reader can do about a failure, if there is anything. -/
def hint? : Failure → Option String
  | configuration _ _ hint? => hint?
  | toolNotStarted step cause =>
    if cause.isNotFound then some (Hint.forMissing cause.program step)
    else some (Hint.makeExecutable cause.program)
  | sequenceAborted _ _ cause => cause.hint?
  | unknownVerb _ => some Hint.listVerbs
  | toolFailed .. => none

/-- The steps that a failure reports as skipped; only a wrapper reports any. -/
def skipped? : Failure → Option (List String)
  | sequenceAborted _ skipped _ => some skipped
  | _ => none

/-- The causes of an unusable configuration, if it has any. -/
def causes? : Failure → Option (List String)
  | configuration _ (cause :: causes) _ => some (cause :: causes)
  | _ => none

@[simp] theorem root_sequenceAborted (step : String) (skipped : List String) (f : Failure) :
    (sequenceAborted step skipped f).root = f.root := rfl

@[simp] theorem exitCode_sequenceAborted (step : String) (skipped : List String)
    (f : Failure) : (sequenceAborted step skipped f).exitCode = f.exitCode := rfl

@[simp] theorem hint?_sequenceAborted (step : String) (skipped : List String) (f : Failure) :
    (sequenceAborted step skipped f).hint? = f.hint? := rfl

end Failure
end GoTasks
