import GoTasks.Config.Basic
import GoTasks.Elapsed
import GoTasks.Stamp.Basic
import GoTasks.Verb.Basic

/-!
# Log events

What a run tells its log, as opposed to its reader: what it makes of its arguments, where its
configuration is from, what it plans, and what becomes of each command. An event has a level and a
topic, by which it is selected, and a message with named fields, which is what is written.

Most events are for whoever looks for a fault in a run, and have the level of debugging.
-/

namespace GoTasks

/-- How much of a log is wanted, from nothing to everything. -/
inductive LogLevel where
  | off
  | error
  | warn
  | info
  | debug
  | trace
  deriving DecidableEq, Repr

namespace LogLevel

def rank : LogLevel → Nat
  | off => 0
  | error => 1
  | warn => 2
  | info => 3
  | debug => 4
  | trace => 5

/-- All levels, in order. -/
def all : List LogLevel := [off, error, warn, info, debug, trace]

def name : LogLevel → String
  | off => "off"
  | error => "error"
  | warn => "warn"
  | info => "info"
  | debug => "debug"
  | trace => "trace"

/-- The number that decimal digits stand for; a plus sign may come before them. -/
def number? (cs : List Char) : Option Nat :=
  let digits := if cs.head? = some '+' then cs.tail else cs
  if digits.isEmpty || digits.any (!·.isDigit) then none
  else some (digits.foldl (fun n c => n * 10 + (c.toNat - '0'.toNat)) 0)

/-- The level of a text: its name in any case, or its place in the order. -/
def ofText? (text : String) : Option LogLevel :=
  all.find? fun l => number? text.toList = some l.rank || text.toLower = l.name

end LogLevel

/-- An event worth a line in the log. -/
inductive LogEvent where
  /-- The arguments are no command line; why, is told by whoever read them. -/
  | argumentsRefused (explanation : String)
  | argumentsIgnored (arguments : List String)
  | dispatching (verb : Verb)
  | loadingConfiguration (file : Path)
  | usingDefaults (directory : Path)
  | crossCompiling (target : Target)
  | collectedStamp (stamp : Stamp)
  | planned (steps : Nat) (root : Path)
  | running (step command : String)
  | spawning (command : String) (directory : Path)
  | couldNotStart (program error : String)
  | finished (program : String) (elapsed : Elapsed)
  | ranAndFailed (program : String) (exitCode : Int)
  deriving DecidableEq, Repr

namespace LogEvent

def level : LogEvent → LogLevel
  | crossCompiling _ | running .. => .info
  | couldNotStart .. => .warn
  | _ => .debug

/-- The topic of an event; parts of a topic are separated by two colons. -/
def topic : LogEvent → String
  | argumentsRefused _ | argumentsIgnored _ | dispatching _ | planned .. => "gomk::cli"
  | loadingConfiguration _ | usingDefaults _ => "gomk::config"
  | crossCompiling _ => "gomk::commands::build"
  | collectedStamp _ => "gomk::utils::git_version"
  | running .. => "gomk::exec::plan"
  | spawning .. | couldNotStart .. | finished .. | ranAndFailed .. => "gomk::exec::subprocess"

def message : LogEvent → String
  | argumentsRefused _ => "argument parsing failed"
  | argumentsIgnored _ => "extra arguments ignored"
  | dispatching _ => "dispatching"
  | loadingConfiguration _ => "loading configuration"
  | usingDefaults _ => "no " ++ Config.fileName ++ " found, using defaults"
  | crossCompiling _ => "cross-compiling"
  | collectedStamp _ => "collected build stamp"
  | planned .. => "planned"
  | running .. => "running"
  | spawning .. => "spawning"
  | couldNotStart .. => "could not start"
  | finished .. => "finished"
  | ranAndFailed .. => "ran and failed"

/-- The named fields of an event, in the order they are written. -/
def fields : LogEvent → List (String × String)
  | argumentsRefused explanation => [("error", explanation)]
  | argumentsIgnored arguments => [("ignored", Text.quotedList arguments)]
  | dispatching v =>
    [("action", v.logText), ("augments_environment", toString v.augmentsEnvironment)]
  | loadingConfiguration file => [("path", file.display)]
  | usingDefaults directory => [("dir", directory.display)]
  | crossCompiling target => [("target", target.display)]
  | collectedStamp stamp => [("stamp", stamp.logText)]
  | planned steps root => [("steps", toString steps), ("root", root.display)]
  | running step command => [("step", step), ("command", command)]
  | spawning command directory => [("command", command), ("dir", directory.display)]
  | couldNotStart program error => [("program", program), ("error", error)]
  | finished program elapsed => [("program", program), ("elapsed", elapsed.text)]
  | ranAndFailed program exitCode => [("program", program), ("exit_code", toString exitCode)]

/-- The names of all fields of an event. The message is a field, too. -/
def fieldNames (e : LogEvent) : List String :=
  "message" :: e.fields.map (·.1)

end LogEvent
end GoTasks
