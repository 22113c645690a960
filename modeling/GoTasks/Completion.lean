/-!
# Completions

A command that was started ends with a completion: whether it succeeded, and its exit code.
The operating system packs both into one 32-bit wait status. Its low seven bits are zero for
a process that exited, and then the next byte is the exit code; otherwise they hold the
signal that ended it, which is reported as 128 plus the signal.

Success is a statement about the whole word, the exit code one about parts of it.
-/

namespace GoTasks

/-- How a command that was started ended. -/
structure Completion where
  succeeded : Bool
  exitCode : Int
  deriving DecidableEq, Repr

/-- The word in which the operating system reports how a process ended. -/
structure WaitStatus where
  word : UInt32
  deriving DecidableEq, Repr

namespace WaitStatus

/-- The status of a process that exited with a code. -/
def exited (code : UInt8) : WaitStatus :=
  ⟨code.toUInt32 * 256⟩

/-- The status of a process that a signal ended. -/
def signaled (signal : UInt8) : WaitStatus :=
  ⟨signal.toUInt32⟩

/-- The low seven bits: zero after an exit, a signal otherwise. -/
def termination (s : WaitStatus) : Nat :=
  s.word.toNat % 128

/-- The byte that holds the code of an exit. -/
def exitByte (s : WaitStatus) : Nat :=
  s.word.toNat / 256 % 256

/-- A status is a success only if every bit of it is zero. -/
def isSuccess (s : WaitStatus) : Bool :=
  s.word = 0

/-- The exit code that a status is reported with. The value 127 in the low bits belongs to
no process that ended, and is reported as a plain failure. -/
def exitCode (s : WaitStatus) : Nat :=
  if s.termination = 0 then s.exitByte
  else if s.termination = 127 then 1
  else 128 + s.termination

/-- How the process of a status ended. -/
def completion (s : WaitStatus) : Completion :=
  ⟨s.isSuccess, s.exitCode⟩

end WaitStatus
end GoTasks
