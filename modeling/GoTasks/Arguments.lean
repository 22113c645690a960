import GoTasks.Text.Utf8

/-!
# Command-line arguments

The first argument is the verb and the others are ignored, whatever they look like: nothing
is a flag. The argument `--` is an escape as long as the verb has not been followed by
anything; it is dropped, and what comes after it is taken as it stands.

Arguments have to be text. One that is not is refused, and one that looks like a long flag,
but is no text up to its `=`, is refused at once.
-/

namespace GoTasks

/-- What a command line asks for. -/
structure Invocation where
  verb? : Option String
  ignored : List String
  deriving DecidableEq, Repr

namespace Arguments

/-- Why a command line is refused. -/
inductive Fault where
  | notText
  | unknownArgument
  deriving DecidableEq, Repr

def hyphen : UInt8 := 0x2D

def equalsSign : UInt8 := 0x3D

/-- The argument that ends the reading of flags. -/
def escape : Bytes := [hyphen, hyphen]

/-- Whether an argument looks like a long flag whose name is not text. -/
def isUnreadableFlag (argument : Bytes) : Bool :=
  match argument with
  | a :: b :: rest =>
    a = hyphen && b = hyphen && (Text.Utf8.decode? (rest.takeWhile (· ≠ equalsSign))).isNone
  | _ => false

/-- Split a command line into its positional arguments, `taken` of which came before. Once two
of them have been seen, everything is positional. -/
def positionals : Nat → List Bytes → Except Fault (List Bytes)
  | _, [] => .ok []
  | taken, argument :: rest =>
    if 2 ≤ taken then .ok (argument :: rest)
    else if argument = escape then .ok rest
    else if isUnreadableFlag argument then .error .unknownArgument
    else (argument :: ·) <$> positionals (taken + 1) rest

/-- The text of every argument, if all of them are text. -/
def texts? (arguments : List Bytes) : Option (List String) :=
  arguments.mapM Text.Utf8.decode?

/-- Read a command line, without the program's own name. -/
def parse (arguments : List Bytes) : Except Fault Invocation := do
  let found ← positionals 0 arguments
  match texts? found with
  | none => .error .notText
  | some [] => .ok ⟨none, []⟩
  | some (verb :: ignored) => .ok ⟨some verb, ignored⟩

/-- The verb that a refused command line is reported with. -/
def refusedVerb (arguments : List Bytes) : String :=
  (arguments.head?.map Text.Utf8.lossy).getD ""

end Arguments
end GoTasks
