import GoTasks.Environment
import GoTasks.Path.Basic

/-!
# Commands

A command is complete in itself: the program, its arguments, the whole environment and the
directory it is started in. Nothing is inherited when it is run.

It is shown as one line. A token that a reader could not tell from its neighbours, because
it is empty or holds white space, is put between double quotes; nothing is escaped.
-/

namespace GoTasks

/-- A program with all it needs to be started. -/
structure Command where
  program : String
  arguments : List String
  environment : Environment
  directory : Path
  deriving DecidableEq

namespace Command

/-- The program followed by its arguments. -/
def argv (c : Command) : List String :=
  c.program :: c.arguments

def needsQuotes (token : String) : Bool :=
  token.isEmpty || Text.hasBlank token

def displayToken (token : String) : String :=
  if needsQuotes token then "\"" ++ token ++ "\"" else token

def display (c : Command) : String :=
  " ".intercalate (c.argv.map displayToken)

@[simp] theorem argv_ne_nil (c : Command) : c.argv ≠ [] := by
  simp [argv]

end Command
end GoTasks
