import GoTasks.Config.Basic

/-!
# Validation

A configuration can be read and still describe no command that could be run. Validation
checks seven rules in a fixed order and reports the first one that is broken.
-/

namespace GoTasks.Config

/-- The rules that a configuration can break. -/
inductive Fault where
  | blankName
  | nameWithSeparator (name : String)
  | absoluteEntry
  | blankGo
  | noLinter
  | zeroTimeout
  | noPackages
  deriving DecidableEq, Repr

def Fault.message : Fault → String
  | blankName => "project.name must not be empty"
  | nameWithSeparator name => "project.name must be a file name, got '" ++ name ++ "'"
  | absoluteEntry => "project.entry must be relative to the project root"
  | blankGo => "tools.go must not be empty"
  | noLinter => "tools.lint must name a program"
  | zeroTimeout => "test.timeout_secs must be positive"
  | noPackages => "test.packages must list at least one package pattern"

/-- Whether a name holds a character that separates the steps of a path on some platform. -/
def hasSeparator (name : String) : Bool :=
  name.toList.any fun c => c = '/' || c = '\\'

/-- Whether no program can be started from a linter's command line. -/
def lacksProgram (lint : List String) : Bool :=
  match lint with
  | [] => true
  | program :: _ => Text.isBlankText program

/-- The rules in the order in which they are checked, each with whether it is broken. -/
def rules (c : Config) : List (Bool × Fault) :=
  [(Text.isBlankText c.layout.name, .blankName),
   (hasSeparator c.layout.name, .nameWithSeparator c.layout.name),
   (c.layout.entry?.any Path.isAbsolute, .absoluteEntry),
   (Text.isBlankText c.tools.go, .blankGo),
   (lacksProgram c.tools.lint, .noLinter),
   (c.testing.timeoutSeconds = 0, .zeroTimeout),
   (c.testing.packages.isEmpty, .noPackages)]

def fault? (c : Config) : Option Fault :=
  (c.rules.find? (·.1)).map (·.2)

/-- Whether a configuration breaks no rule. -/
def IsValid (c : Config) : Prop :=
  ∀ rule ∈ c.rules, rule.1 = false

instance (c : Config) : Decidable c.IsValid :=
  inferInstanceAs (Decidable (∀ rule ∈ c.rules, rule.1 = false))

@[simp] theorem fault?_eq_none_iff (c : Config) : c.fault? = none ↔ c.IsValid := by
  simp only [fault?, Option.map_eq_none_iff, List.find?_eq_none, IsValid, Bool.not_eq_true]

theorem isValid_iff (c : Config) :
    c.IsValid ↔
      Text.isBlankText c.layout.name = false ∧ hasSeparator c.layout.name = false ∧
        c.layout.entry?.any Path.isAbsolute = false ∧ Text.isBlankText c.tools.go = false ∧
        lacksProgram c.tools.lint = false ∧ c.testing.timeoutSeconds ≠ 0 ∧
        c.testing.packages ≠ [] := by
  simp [IsValid, rules]

theorem isValid_default : default.IsValid := by
  decide

end GoTasks.Config
