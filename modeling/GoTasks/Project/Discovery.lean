import GoTasks.Config.Parse
import GoTasks.Failure
import GoTasks.Log.Event
import GoTasks.Project.Basic

/-!
# Finding the project

A project is found from a directory by looking for its configuration file there, then in the
directory above, and so on up. The nearest one counts, even if it is unusable; only a regular
file counts, so a directory of that name is passed over. Where there is none, the directory
is itself a project, with the default configuration.

Looking is written over any monad, because it asks the file system and tells the log what it found;
what the answers mean is pure.
-/

namespace GoTasks

/-- What is asked of the file system when a project is looked for, and where the log is kept, with
effects in `m`. -/
structure FileView (m : Type → Type) where
  isFile : Path → m Bool
  read : Path → m (Except SystemError Bytes)
  currentDirectory : m (Except SystemError Path)
  log : LogEvent → m Unit

namespace FileView

variable {m : Type → Type} [Monad m]

/-- The first of some paths that is a regular file. None after it is asked for. -/
def firstFile (view : FileView m) : List Path → m (Option Path)
  | [] => pure none
  | p :: rest => do
    if ← view.isFile p then pure (some p) else view.firstFile rest

/-- Where a file of a given name is looked for from a directory, in order. -/
def candidates (start : Path) (name : String) : List Path :=
  start.ancestors.map (·.join (.ofText name))

/-- The nearest file of a given name, in a directory or above it. -/
def findUpwards (view : FileView m) (start : Path) (name : String) : m (Option Path) :=
  view.firstFile (candidates start name)

end FileView

namespace Project

/-- The project of a directory without a configuration file at or above it. -/
def unconfigured (start : Path) : Project :=
  ⟨start, .default⟩

def invalidConfiguration (file : Path) (e : Config.ReadError) : Failure :=
  .configuration (file.display ++ " is invalid") e.chain (some Hint.checkConfiguration)

/-- The project that a configuration file describes. Its root is the file's directory. -/
def ofFile (explain : String → String) (start file : Path) (content : Except SystemError Bytes) :
    Except Failure Project :=
  match Config.parseFile explain file content with
  | .error e => .error (invalidConfiguration file e)
  | .ok config => .ok ⟨file.parent?.getD start, config⟩

/-- The failure to learn where the run was started. -/
def nowhere (e : SystemError) : Failure :=
  .configuration "Failed to get current directory" [e.message] (some Hint.startInProject)

variable {m : Type → Type} [Monad m]

def discoverFrom (explain : String → String) (view : FileView m) (start : Path) :
    m (Except Failure Project) := do
  match ← view.findUpwards start Config.fileName with
  | none => do
    view.log (.usingDefaults start)
    pure (.ok (unconfigured start))
  | some file => do
    view.log (.loadingConfiguration file)
    return ofFile explain start file (← view.read file)

def discover (explain : String → String) (view : FileView m) : m (Except Failure Project) := do
  match ← view.currentDirectory with
  | .error e => pure (.error (nowhere e))
  | .ok start => discoverFrom explain view start

end Project
end GoTasks
