import GoTasks.Appearance
import GoTasks.Dispatch
import GoTasks.Project.Discovery

/-!
# Command line

The library as a program: the arguments select a verb, the project is read from the files of
the machine, and what the run says goes to the terminal. Starting other programs is left to
the system around it, so every command is reported as one that cannot be started.

No command being started, two things about commands are left open. The clock stands still at the
start of 1970, and that is the date in the stamp of a build that is announced. The environment of a
run holds the variables that decide how the run looks, and no others.

A configuration file that is no document is refused without saying where it goes wrong.
-/

open GoTasks

namespace GoTasks.CommandLine

/-- The variables that decide how a run looks. -/
def consulted : List String := ["CLICOLOR_FORCE", "NO_COLOR", LogFilter.variableName]

def readEnvironment : IO Environment :=
  consulted.foldlM (fun env name => do
    match ← IO.getEnv name with
    | none => pure env
    | some value => pure (env.setText name value)) .empty

def ofError : IO.Error → SystemError
  | .noFileOrDirectory .. => .noEntry
  | .permissionDenied .. => .permissionDenied
  | .inappropriateType .. => .isDirectory
  | e => .described .other (toString e)

def readFile (p : Path) : IO (Except SystemError Bytes) := do
  match ← (IO.FS.readBinFile p.display).toBaseIO with
  | .ok content => pure (.ok content.toList)
  | .error e => pure (.error (ofError e))

/-- How a run looks at the files. One that cannot be read counts as none. -/
def files (log : LogEvent → IO Unit) : FileView IO where
  isFile p := do return (← readFile p).isOk
  read := readFile
  log := log
  currentDirectory := do
    match ← (IO.currentDir).toBaseIO with
    | .ok directory => pure (.ok (.ofText directory.toString))
    | .error e => pure (.error (ofError e))

def console (look : Appearance) : Console IO :=
  Console.filtered look.wants
    { styled := look.styled
      out := IO.print
      err := IO.eprint
      log := fun e => IO.eprint (e.line look.logStyled) }

/-- The surroundings of a run on this machine. Its arguments are texts, and texts are never
refused. -/
def surroundings (look : Appearance) (environment : Environment) : Surroundings IO where
  console := console look
  run := Runner.logged (console look).log (fun _ => ⟨0⟩) fun c =>
    pure (.error ⟨c.program, .notSupported⟩)
  stampSource :=
    { now := pure ⟨0, 0⟩
      readFile := readFile
      git := fun _ _ => pure (.error .notSupported) }
  writeUsage text := do
    match ← (IO.print text).toBaseIO with
    | .ok () => pure (.ok ())
    | .error e => pure (.error (ofError e))
  flushUsage := pure (.ok ())
  loadProject := Project.discover (fun _ => "not a TOML document") (files (console look).log)
  environment := pure environment
  refusal _ _ := ""

end GoTasks.CommandLine

/-- Run the command line, and end with its exit code. -/
def main (arguments : List String) : IO UInt32 := do
  let environment ← CommandLine.readEnvironment
  let code ← runArguments
    (CommandLine.surroundings (.ofEnvironment environment) environment)
    (arguments.map Text.Utf8.encode)
  pure (UInt32.ofNat (code % 256).toNat)
