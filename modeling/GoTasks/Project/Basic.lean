import GoTasks.Config.Basic

/-!
# Projects

A project is a configuration together with the directory its commands run in.
-/

namespace GoTasks

/-- A configuration and the directory it applies to. -/
structure Project where
  root : Path
  config : Config
  deriving DecidableEq, Repr

namespace Project

def outputDirectory (p : Project) : Path :=
  p.root.join p.config.layout.outputDirectory

def binaryPath (p : Project) : Path :=
  p.outputDirectory.join (.ofText p.config.layout.binaryName)

end Project
end GoTasks
