import GoTasks.Target
import GoTasks.Text.Quoted

/-!
# Verbs

A verb is what a run is asked to do. There are nine, and the set is closed: every name is
either the exact name of one of them or no verb at all.
-/

namespace GoTasks

/-- What a run can be asked to do. -/
inductive Verb where
  | test
  | build
  | buildFor (os : OperatingSystem)
  | run
  | lint
  | check
  | help
  deriving DecidableEq, Repr

namespace Verb

/-- All verbs, in the order the usage lists them. -/
def all : List Verb :=
  [.test, .build, .buildFor .linux, .buildFor .windows, .buildFor .darwin, .run, .lint, .check,
   .help]

/-- The name of a verb, as it is typed. -/
def name : Verb → String
  | test => "test"
  | build => "build"
  | buildFor os => os.name
  | run => "run"
  | lint => "lint"
  | check => "check"
  | help => "help"

def summary : Verb → String
  | test => "Run the test suite once, failing after the configured timeout"
  | build => "Build the binary for the host platform"
  | buildFor os => "Cross-compile the binary for " ++ (Target.ofOs os).display
  | run => "Run the built binary with the configuration directory"
  | lint => "Run the linter over the project"
  | check => "Run lint, then test; stop at the first failure"
  | help => "Display this help message"

/-- The platform that a verb builds for, if it names one. -/
def platform? : Verb → Option OperatingSystem
  | buildFor os => some os
  | _ => none

def augmentsEnvironment (v : Verb) : Bool :=
  v.platform?.isSome

def isBuild : Verb → Bool
  | build | buildFor _ => true
  | _ => false

def needsProject (v : Verb) : Bool :=
  v ≠ .help

/-- The kind of a verb, by which the log tells verbs apart that do different things. -/
def kindName : Verb → String
  | test => "Test"
  | build | buildFor _ => "Build"
  | run => "Run"
  | lint => "Lint"
  | check => "Check"
  | help => "Help"

def logText (v : Verb) : String :=
  let target := match v.platform? with
    | none => "None"
    | some os => "Some(" ++ os.title ++ ")"
  "Action \x7b name: " ++ Text.quoted v.name ++ ", kind: " ++ v.kindName ++ ", target: " ++
    target ++ ", .. \x7d"

def ofName? (s : String) : Option Verb :=
  all.find? (·.name = s)

theorem mem_all (v : Verb) : v ∈ all := by
  cases v with
  | buildFor os => cases os <;> decide
  | _ => decide

@[simp] theorem ofName?_name (v : Verb) : ofName? v.name = some v := by
  have hall : ∀ x ∈ all, ofName? x.name = some x := by decide
  exact hall v (mem_all v)

theorem name_of_ofName? {s : String} {v : Verb} (h : ofName? s = some v) : v.name = s := by
  simpa using List.find?_some h

end Verb
end GoTasks
