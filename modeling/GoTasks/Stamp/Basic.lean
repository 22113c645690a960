import GoTasks.Text.Blank
import GoTasks.Text.Quoted

/-!
# Build stamps

A stamp is what a binary is told about its own build: four values, each of them possibly
unknown. A known value reaches the binary as an assignment to a variable of its main package,
which the linker makes for a flag `-X`.

The linker flags travel as one argument that the Go tool splits at white space. An assignment
that holds white space is therefore put between single quotes.
-/

namespace GoTasks

/-- What a binary is told about its build; an empty value is unknown. -/
structure Stamp where
  version : String
  commit : String
  shortCommit : String
  date : String
  deriving DecidableEq, Repr

namespace Stamp

def empty : Stamp := ⟨"", "", "", ""⟩

/-- The variables of a stamp with their values, in the order they are written. -/
def linkerVariables (s : Stamp) : List (String × String) :=
  [("main.Version", s.version), ("main.Commit", s.commit),
   ("main.ShortCommit", s.shortCommit), ("main.Date", s.date)]

/-- The assignments of the known values. -/
def assignments (s : Stamp) : List String :=
  (s.linkerVariables.filter fun (_, value) => !value.isEmpty).map fun (name, value) =>
    name ++ "=" ++ value

/-- An assignment as it is written among the linker flags. -/
def quoteAssignment (assignment : String) : String :=
  if Text.hasBlank assignment then "'" ++ assignment ++ "'" else assignment

def linkerFlags (s : Stamp) : List String :=
  s.assignments.flatMap fun assignment => ["-X", quoteAssignment assignment]

def logText (s : Stamp) : String :=
  "BuildStamp \x7b version: " ++ Text.quoted s.version ++ ", commit: " ++ Text.quoted s.commit ++
    ", short_commit: " ++ Text.quoted s.shortCommit ++ ", date: " ++ Text.quoted s.date ++ " \x7d"

end Stamp
end GoTasks
