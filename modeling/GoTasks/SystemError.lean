import GoTasks.SystemError.Names

/-!
# System errors

What the operating system answers when it refuses a request. Most refusals carry an error
number, from which the text follows; some carry a kind and a text of their own.
-/

namespace GoTasks

/-- The kinds that an error without a number can have. -/
inductive ErrorKind where
  | notFound
  | permissionDenied
  | invalidInput
  | other
  deriving DecidableEq, Repr

/-- The text of a kind that comes without a text of its own. -/
def ErrorKind.defaultText : ErrorKind → String
  | notFound => "entity not found"
  | permissionDenied => "permission denied"
  | invalidInput => "invalid input parameter"
  | other => "other error"

/-- A request that the operating system refused. -/
inductive SystemError where
  | numbered (number : Int)
  | described (kind : ErrorKind) (text : String)
  deriving DecidableEq, Repr

namespace SystemError

def message : SystemError → String
  | numbered n => s!"{errorName n} (os error {n})"
  | described _ text => text

def isNotFound : SystemError → Bool
  | numbered n => n = 2
  | described kind _ => kind = .notFound

/-- An error of a kind, with the kind's own text. -/
def ofKind (kind : ErrorKind) : SystemError :=
  described kind kind.defaultText

def noEntry : SystemError := numbered 2

/-- The file is no program that can be started. -/
def execFormat : SystemError := numbered 8

def permissionDenied : SystemError := numbered 13

def alreadyExists : SystemError := numbered 17

def notDirectory : SystemError := numbered 20

def isDirectory : SystemError := numbered 21

def invalidArgument : SystemError := numbered 22

def nameTooLong : SystemError := numbered 36

def notEmpty : SystemError := numbered 39

def tooManyLinks : SystemError := numbered 40

def notSupported : SystemError := numbered 95

/-- A name holds a zero byte, which no system call can take. -/
def zeroByte : SystemError := described .invalidInput "nul byte found in provided data"

def zeroByteInName : SystemError :=
  described .invalidInput "file name contained an unexpected NUL byte"

/-- A file that should be text is not well-formed. -/
def notText : SystemError := described .other "stream did not contain valid UTF-8"

end SystemError
end GoTasks
