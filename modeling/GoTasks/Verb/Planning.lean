import GoTasks.Path.Package
import GoTasks.Plan
import GoTasks.Project.Basic
import GoTasks.Stamp.Collect
import GoTasks.Verb.Basic

/-!
# Planning

A verb is turned into a plan from the project, the environment of the run and the stamp for the
binary, and from nothing else. Given those, planning is a pure function. What has effects is to
tell the log, and to find the stamp, which is done for verbs that build and projects that want one.
-/

namespace GoTasks

/-- What a verb is planned in. -/
structure PlanContext where
  project : Project
  environment : Environment
  /-- A stamp to use in place of a collected one. -/
  presetStamp? : Option Stamp
  deriving DecidableEq

namespace PlanContext

def config (ctx : PlanContext) : Config := ctx.project.config

/-- A command in the project's root, with the environment of the run. -/
def command (ctx : PlanContext) (program : String) (arguments : List String) : Command :=
  ⟨program, arguments, ctx.environment, ctx.project.root⟩

end PlanContext

namespace Config

/-- The output directory as an argument. It ends in a separator, which makes the Go tool
write into it and choose the file name. -/
def outputArgument (c : Config) : String :=
  let shown := c.layout.outputDirectory.display
  if shown.toList.getLast? = some '/' then shown else shown ++ "/"

/-- The flags that leave out what a debugger needs. -/
def stripFlags (c : Config) : List String :=
  if c.linking.strip then ["-s", "-w"] else []

/-- The linker flags, as they are written into one argument. -/
def linkerFlags (c : Config) (stamp? : Option Stamp) : String :=
  " ".intercalate (c.stripFlags ++ (stamp?.map Stamp.linkerFlags).getD [])

/-- The arguments that pass on linker flags, if there are any. -/
def linkerArguments (flags : String) : List String :=
  if flags.isEmpty then [] else ["-ldflags", flags]

def buildArguments (c : Config) (stamp? : Option Stamp) : List String :=
  ["build", "-o", c.outputArgument] ++ linkerArguments (c.linkerFlags stamp?) ++
    [c.layout.entry.packageArgument]

def testArguments (c : Config) : List String :=
  ["test"] ++ (if c.testing.race then ["-race"] else []) ++
    ["-timeout=" ++ toString c.testing.timeoutSeconds ++ "s", "-count=1"] ++ c.testing.packages

/-- The linter's command line. Validation refuses an empty one, and the usual linter stands in
for it. -/
def lintCommandLine (c : Config) : String × List String :=
  match c.tools.lint with
  | program :: arguments => (program, arguments)
  | [] => ("golangci-lint", ["run"])

end Config

namespace PlanContext

def testCommand (ctx : PlanContext) : Command :=
  ctx.command ctx.config.tools.go ctx.config.testArguments

def lintCommand (ctx : PlanContext) : Command :=
  ctx.command ctx.config.lintCommandLine.1 ctx.config.lintCommandLine.2

def runCommand (ctx : PlanContext) : Command :=
  ctx.command ctx.project.binaryPath.display
    ["-config", ctx.config.layout.configDirectory.display]

/-- The environment of a build, which names the platform if there is one. -/
def buildEnvironment (ctx : PlanContext) (platform? : Option OperatingSystem) : Environment :=
  match platform? with
  | none => ctx.environment
  | some os => (Target.ofOs os).environment ctx.environment

def buildCommand (ctx : PlanContext) (platform? : Option OperatingSystem)
    (stamp? : Option Stamp) : Command :=
  { ctx.command ctx.config.tools.go (ctx.config.buildArguments stamp?) with
    environment := ctx.buildEnvironment platform? }

end PlanContext

namespace Verb

/-- The plan of a verb, given the stamp that a build writes into the binary. -/
def planWith (ctx : PlanContext) (stamp? : Option Stamp) (v : Verb) : Plan :=
  match v with
  | test => .single ⟨v.name, ctx.testCommand⟩
  | build | buildFor _ => .single ⟨v.name, ctx.buildCommand v.platform? stamp?⟩
  | run => .single ⟨v.name, ctx.runCommand⟩
  | lint => .single ⟨v.name, ctx.lintCommand⟩
  | check => (Plan.empty.push ⟨lint.name, ctx.lintCommand⟩).push ⟨test.name, ctx.testCommand⟩
  | help => .empty

variable {m : Type → Type} [Monad m]

/-- Collect a stamp in the root of the project, and tell the log. -/
def collectStamp (log : LogEvent → m Unit) (source : Stamp.Source m) (ctx : PlanContext) :
    m Stamp := do
  let stamp ← Stamp.collect source ctx.project.root
  log (.collectedStamp stamp)
  pure stamp

/-- The stamp that a verb writes into the binary: none for verbs that do not build and for
projects that want none, and otherwise the preset one or the one collected. -/
def stampFor (log : LogEvent → m Unit) (source : Stamp.Source m) (ctx : PlanContext) (v : Verb) :
    m (Option Stamp) :=
  if v.isBuild && ctx.config.linking.stampVersion then
    match ctx.presetStamp? with
    | some stamp => pure (some stamp)
    | none => some <$> collectStamp log source ctx
  else pure none

def announce (log : LogEvent → m Unit) (v : Verb) : m Unit :=
  match v.platform? with
  | none => pure ()
  | some os => log (.crossCompiling (.ofOs os))

def plan (log : LogEvent → m Unit) (source : Stamp.Source m) (ctx : PlanContext) (v : Verb) :
    m Plan := do
  v.announce log
  let stamp? ← v.stampFor log source ctx
  pure (v.planWith ctx stamp?)

end Verb
end GoTasks
