/-!
# Hints

What a reader can do about a failure. Hints are fixed texts; a hint of several lines marks
its alternatives with bullets.
-/

namespace GoTasks.Hint

def installGo : String :=
  "Install Go from https://go.dev/dl/ or use your package manager:\n" ++
  "• macOS: brew install go\n" ++
  "• Ubuntu: sudo apt install golang-go\n" ++
  "• Windows: winget install GoLang.Go"

def installLinter : String :=
  "Install golangci-lint from https://golangci-lint.run/welcome/install/:\n" ++
  "• macOS: brew install golangci-lint\n" ++
  "• Any platform: go install github.com/golangci/golangci-lint/cmd/golangci-lint@latest"

/-- What to do before the binary can be run. -/
def buildFirst : String :=
  "The binary has not been built yet. Run: gomk build"

/-- What to do about a program that is nothing in particular. -/
def installTool : String :=
  "Install this tool and ensure it's in your PATH"

def listVerbs : String :=
  "Run `gomk help` to list available commands"

def startInProject : String :=
  "Run gomk from inside the project directory"

def checkConfiguration : String :=
  "gomk.toml is invalid. Common issues:\n" ++
  "• Invalid TOML syntax (check quotes, brackets, commas)\n" ++
  "• Unknown section or key (allowed: [project], [tools], [test], [build])\n" ++
  "• Empty lists for tools.lint or test.packages"

/-- What to do about a program that exists and could not be started. -/
def makeExecutable (program : String) : String :=
  "Check that `" ++ program ++ "` is executable by the current user"

/-- What to do about a program that was not found, when a step wanted it. -/
def forMissing (program step : String) : String :=
  if program = "go" then installGo
  else if program = "golangci-lint" then installLinter
  else if step = "run" then buildFirst
  else installTool

end GoTasks.Hint
