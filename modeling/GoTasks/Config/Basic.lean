import GoTasks.Path.Basic

/-!
# Configuration

A project is described by four sections: its layout, its tools, how it is tested and how it
is built. Every field has a default, and the defaults describe a complete project.
-/

namespace GoTasks

namespace Config

/-- Where a project keeps what it builds from, and where what it builds goes. -/
structure Layout where
  /-- The name of the binary. -/
  name : String
  /-- The directory of the main package, if it is not the usual one. -/
  entry? : Option Path
  /-- The directory that the binary is written to. -/
  outputDirectory : Path
  /-- The directory that the running binary is pointed at. -/
  configDirectory : Path
  deriving DecidableEq, Repr

/-- The programs that do the work. -/
structure Tools where
  /-- The Go toolchain. -/
  go : String
  /-- The linter and its arguments. -/
  lint : List String
  deriving DecidableEq, Repr

/-- How a project is tested. -/
structure Testing where
  timeoutSeconds : Nat
  packages : List String
  race : Bool
  deriving DecidableEq, Repr

/-- How a binary is linked. -/
structure Linking where
  /-- Leave out the symbol table and the debug information. -/
  strip : Bool
  /-- Write version, commit and date into the binary. -/
  stampVersion : Bool
  deriving DecidableEq, Repr

end Config

/-- The configuration of a project. -/
structure Config where
  layout : Config.Layout
  tools : Config.Tools
  testing : Config.Testing
  linking : Config.Linking
  deriving DecidableEq, Repr

namespace Config

def fileName : String := "gomk.toml"

def Layout.default : Layout :=
  ⟨"go-proxy", none, .ofText "dist", .ofText "./configs"⟩

def Tools.default : Tools :=
  ⟨"go", ["golangci-lint", "run"]⟩

def Testing.default : Testing :=
  ⟨60, ["./..."], false⟩

def Linking.default : Linking :=
  ⟨true, true⟩

/-- The configuration of a project without a configuration file. -/
def default : Config :=
  ⟨.default, .default, .default, .default⟩

/-- The directory of the main package. Unless it is configured, it is named after the
project and lies in `cmd`. -/
def Layout.entry (layout : Layout) : Path :=
  layout.entry?.getD ((Path.ofText "cmd").join (.ofText layout.name))

def Layout.binaryName (layout : Layout) : String :=
  layout.name

end Config
end GoTasks
