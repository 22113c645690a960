import GoTasks.Completion
import GoTasks.Path.Basic
import GoTasks.Stamp.Basic
import GoTasks.Stamp.Date
import GoTasks.SystemError

/-!
# Collecting a stamp

The version is the first line of a file in the project root; the commits come from git, which
is asked three times: for changes, for the commit, and for its short form. Whatever cannot be
read or asked stays unknown, and nothing here fails.

What an answer means is separated from asking for it. The first is pure and decides each
value from one answer; the second fixes the order of the questions.
-/

namespace GoTasks.Stamp

/-- What a probe came back with: how it ended and what it wrote, or that it did not start. -/
abbrev ProbeResult := Except SystemError (WaitStatus × Bytes)

def versionFile : String := "VERSION"

def changesQuery : List String := ["status", "--porcelain"]

def commitQuery : List String := ["rev-parse", "HEAD"]

/-- The arguments that ask git for the short form of the commit. -/
def shortCommitQuery : List String := ["rev-parse", "--short", "HEAD"]

/-- What is added to the commit of a directory with changes. -/
def dirtySuffix : String := "-dirty"

/-- The first line of a text, without its line feed. -/
def firstLine (cs : List Char) : List Char :=
  cs.takeWhile (· ≠ '\n')

/-- The version that a version file gives: its first line, if it can be read as text. -/
def versionOf : Except SystemError Bytes → String
  | .error _ => ""
  | .ok content =>
    match Text.Utf8.decode? content with
    | none => ""
    | some text => String.ofList (Text.trimChars (firstLine text.toList))

/-- What a probe said, if it succeeded and said anything but blanks. -/
def answer? : ProbeResult → Option String
  | .error _ => none
  | .ok (status, output) =>
    if status.isSuccess then
      let said := Text.trim (Text.Utf8.lossy output)
      if said.isEmpty then none else some said
    else none

/-- A commit, marked if there are changes. -/
def markChanges (commit : String) (changed : Bool) : String :=
  if changed then commit ++ dirtySuffix else commit

/-- The commit that a probe gives; unknown if it gave none. -/
def commitOf (changes probe : ProbeResult) : String :=
  match answer? probe with
  | none => ""
  | some commit => markChanges commit (answer? changes).isSome

/-- The stamp that the four answers and the time amount to. -/
def ofAnswers (now : Instant) (version : Except SystemError Bytes)
    (changes commit shortCommit : ProbeResult) : Stamp where
  version := versionOf version
  commit := commitOf changes commit
  shortCommit := commitOf changes shortCommit
  date := now.text

/-- Where the parts of a stamp are asked for, with effects in `m`. -/
structure Source (m : Type → Type) where
  now : m Instant
  readFile : Path → m (Except SystemError Bytes)
  git : Path → List String → m ProbeResult

variable {m : Type → Type} [Monad m]

/-- Ask for all parts of the stamp of the project at `root`. -/
def collect (source : Source m) (root : Path) : m Stamp := do
  let now ← source.now
  let version ← source.readFile (root.join (.ofText versionFile))
  let changes ← source.git root changesQuery
  let commit ← source.git root commitQuery
  let shortCommit ← source.git root shortCommitQuery
  pure (ofAnswers now version changes commit shortCommit)

end GoTasks.Stamp
