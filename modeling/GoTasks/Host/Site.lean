import GoTasks.Appearance
import GoTasks.Dispatch
import GoTasks.Host.Process
import GoTasks.Project.Discovery

/-!
# Runs on a host

A run that takes place on a host is given surroundings of its own: the project is looked for
in the file tree, commands are run on the host, and what is said goes to its streams. Which
run it is, where it was started and with which variables, is its *site*.
-/

namespace GoTasks

/-- What a run is given that no host decides: times, and the words in which the readers of command
lines and of documents refuse what they cannot read. -/
structure Externals where
  now : Instant
  elapsed : Command → Elapsed
  refusal : List Bytes → Arguments.Fault → String
  explain : String → String

/-- Where and how a run is started. -/
structure Site where
  /-- The directory it is started in; none, if that has been removed. -/
  cwd? : Option Location
  environment : Environment
  appearance : Appearance
  externals : Externals

namespace Site

/-- The directory of a site; that of the root, once its own has been removed. -/
def cwd (site : Site) : Location := site.cwd?.getD []

def say (channel : Channel) (text : String) : StateM Host Unit :=
  modify (·.write channel (Text.Utf8.encode text))

/-- Where a run speaks. The log goes where errors go. -/
def console (site : Site) : Console (StateM Host) :=
  Console.filtered site.appearance.wants
    { styled := site.appearance.styled
      out := say .out
      err := say .err
      log := fun e => say .err (e.line site.appearance.logStyled) }

def run (site : Site) : Runner (StateM Host) :=
  Runner.logged site.console.log site.externals.elapsed fun c =>
    modifyGet (·.runCommand site.cwd c)

/-- How a run looks at the file tree. -/
def files (site : Site) : FileView (StateM Host) where
  isFile p := do return (← get).tree.isFile site.cwd p
  read p := do return (← get).tree.read site.cwd p
  currentDirectory := pure <|
    match site.cwd? with
    | none => .error .noEntry
    | some loc => .ok (FileTree.pathOf loc)
  log := site.console.log

def stampSource (site : Site) : Stamp.Source (StateM Host) where
  now := pure site.externals.now
  readFile p := site.files.read p
  git directory arguments := modifyGet (·.askGit site.cwd site.environment directory arguments)

def surroundings (site : Site) : Surroundings (StateM Host) where
  console := site.console
  run := site.run
  stampSource := site.stampSource
  writeUsage text := do
    say .out text
    pure (.ok ())
  flushUsage := pure (.ok ())
  loadProject := Project.discover site.externals.explain site.files
  environment := pure site.environment
  refusal := site.externals.refusal

/-- The site of a program that is started in a directory with an environment, and whose output
goes to no terminal. -/
def ofEnvironment (cwd : Location) (env : Environment) (externals : Externals) : Site :=
  ⟨some cwd, env, .ofEnvironment env, externals⟩

end Site

namespace Host

/-- The programs of a host that was just set up, by name. -/
def tools : List (String × Tool) :=
  [("sh", .shell), ("env", .environment), ("printenv", .printVariables), ("which", .locate),
   ("cat", .concatenate), ("head", .firstLines), ("tail", .lastLines), ("wc", .count),
   ("tee", .distribute), ("ls", .list), ("rm", .delete), ("rmdir", .removeDirectory),
   ("mkdir", .makeDirectory), ("touch", .touch), ("cp", .copy), ("mv", .move), ("ln", .link),
   ("chmod", .setMode), ("echo", .echo), ("printf", .format), ("test", .test), ("[", .bracket),
   ("seq", .sequence), ("basename", .lastPart), ("dirname", .parentPart), ("pwd", .directory),
   ("sleep", .sleep), ("true", .succeed), ("false", .fail)]

def locationOf (names : List String) : Location :=
  names.map Text.Utf8.encode

/-- The entries of a directory that holds all programs. -/
def toolEntries (directory : List String) : List (Location × FileEntry) :=
  tools.map fun (name, tool) => (locationOf (directory ++ [name]), .file (.tool tool) true)

def directories : List (List String) :=
  [["bin"], ["dev"], ["usr"], ["usr", "bin"], ["tmp"]]

/-- A host that holds nothing but its programs, a device, and an empty directory for temporary
files. -/
def fresh : Host where
  tree :=
    ⟨directories.map (fun names => (locationOf names, .directory)) ++
      [(locationOf ["dev", "null"], .file .device false)] ++
      toolEntries ["bin"] ++ toolEntries ["usr", "bin"]⟩
  out := []
  err := []
  streams := []
  processes := ownNumber
  sent := []

end Host
end GoTasks
