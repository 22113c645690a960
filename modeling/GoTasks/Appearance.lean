import GoTasks.Log.Filter
import GoTasks.Log.Line

/-!
# Appearance

How a run looks to whoever watches it: whether its words are styled, what it logs, and whether
the log is styled too. All of it can be chosen by environment variables.
-/

namespace GoTasks

/-- How a run looks. -/
structure Appearance where
  styled : Bool
  logStyled : Bool
  /-- What is logged; nothing, if no log is kept. -/
  filter? : Option LogFilter
  deriving DecidableEq, Repr

namespace Appearance

def silent (styled : Bool) : Appearance := ⟨styled, false, none⟩

/-- The text of a variable; one that is no text counts as unset. -/
def textOf? (env : Environment) (name : String) : Option String :=
  (env.getText? name).bind Text.Utf8.decode?

/-- Whether an environment turns styling on for output that goes to no terminal: any value but
`0` does, and so does an empty one. -/
def forcesStyle (env : Environment) : Bool :=
  match textOf? env "CLICOLOR_FORCE" with
  | none => false
  | some value => value ≠ "0"

/-- Whether an environment leaves the log its styles: any value but an empty one takes them. -/
def allowsLogStyle (env : Environment) : Bool :=
  match textOf? env "NO_COLOR" with
  | none => true
  | some value => value.isEmpty

/-- How a run looks that is started with an environment. -/
def ofEnvironment (env : Environment) : Appearance :=
  ⟨forcesStyle env, allowsLogStyle env, some (.ofEnvironment env)⟩

def wants (a : Appearance) (e : LogEvent) : Bool :=
  a.filter?.any (·.admits e)

end Appearance
end GoTasks
