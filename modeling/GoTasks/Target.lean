import GoTasks.Environment

/-!
# Build targets

Each operating system the binary can be built for has one architecture. The pairing is fixed:
neither the command line nor the configuration can change it.
-/

namespace GoTasks

/-- The operating systems a binary can be built for. -/
inductive OperatingSystem where
  | linux
  | windows
  | darwin
  deriving DecidableEq, Repr

/-- The processor architectures of the supported targets. -/
inductive Architecture where
  | amd64
  | arm64
  deriving DecidableEq, Repr

namespace OperatingSystem

/-- All operating systems, in the order the usage lists them. -/
def all : List OperatingSystem :=
  [.linux, .windows, .darwin]

/-- The name the Go tool knows an operating system by, which is also its verb. -/
def name : OperatingSystem → String
  | linux => "linux"
  | windows => "windows"
  | darwin => "darwin"

/-- The name an operating system has in the log. -/
def title : OperatingSystem → String
  | linux => "Linux"
  | windows => "Windows"
  | darwin => "Darwin"

def ofName? (s : String) : Option OperatingSystem :=
  all.find? (·.name = s)

def architecture : OperatingSystem → Architecture
  | darwin => .arm64
  | linux | windows => .amd64

def unsupportedMessage (s : String) : String :=
  "unsupported target OS: " ++ s

@[simp] theorem ofName?_name (os : OperatingSystem) : ofName? os.name = some os := by
  cases os <;> decide

theorem name_of_ofName? {s : String} {os : OperatingSystem} (h : ofName? s = some os) :
    os.name = s := by
  simpa using List.find?_some h

end OperatingSystem

def Architecture.name : Architecture → String
  | amd64 => "amd64"
  | arm64 => "arm64"

/-- An operating system together with its architecture. -/
structure Target where
  os : OperatingSystem
  architecture : Architecture
  deriving DecidableEq, Repr

namespace Target

def osVariable : String := "GOOS"

def architectureVariable : String := "GOARCH"

def ofOs (os : OperatingSystem) : Target :=
  ⟨os, os.architecture⟩

def display (t : Target) : String :=
  t.os.name ++ "/" ++ t.architecture.name

/-- The environment for building to a target: two variables are set, the others kept. -/
def environment (t : Target) (base : Environment) : Environment :=
  (base.setText osVariable t.os.name).setText architectureVariable t.architecture.name

end Target
end GoTasks
