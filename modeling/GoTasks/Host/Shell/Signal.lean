import GoTasks.Host.Shell.Token

/-!
# Signals

Signals have numbers, names, and texts that tell what came of a process which one has ended.
Most end a process that does not expect them. The end of a shell counts as a signal of number
zero, since it can be acted upon, too.
-/

namespace GoTasks.Shell.Signal

/-- The names and texts of the signals, from number one on. -/
def table : List (String × String) :=
  [("HUP", "Hangup"), ("INT", "Interrupt"), ("QUIT", "Quit"), ("ILL", "Illegal instruction"),
   ("TRAP", "Trace/breakpoint trap"), ("ABRT", "Aborted"), ("BUS", "Bus error"),
   ("FPE", "Floating point exception"), ("KILL", "Killed"), ("USR1", "User defined signal 1"),
   ("SEGV", "Segmentation fault"), ("USR2", "User defined signal 2"), ("PIPE", "Broken pipe"),
   ("ALRM", "Alarm clock"), ("TERM", "Terminated"), ("STKFLT", "Stack fault"),
   ("CHLD", "Child exited"), ("CONT", "Continued"), ("STOP", "Stopped (signal)"),
   ("TSTP", "Stopped"), ("TTIN", "Stopped (tty input)"), ("TTOU", "Stopped (tty output)"),
   ("URG", "Urgent I/O condition"), ("XCPU", "CPU time limit exceeded"),
   ("XFSZ", "File size limit exceeded"), ("VTALRM", "Virtual timer expired"),
   ("PROF", "Profiling timer expired"), ("WINCH", "Window changed"), ("IO", "I/O possible"),
   ("PWR", "Power failure"), ("SYS", "Bad system call")]

def exit : Nat := 0

def interrupt : Nat := 2

/-- The number of the signal that nothing can prepare for. -/
def kill : Nat := 9

/-- The number of the signal for output that nobody reads. -/
def pipe : Nat := 13

/-- The number of the signal that asks to end. -/
def terminate : Nat := 15

/-- The number from which on there are no signals. -/
def limit : Nat := 65

/-- The signals that do not end a process which does not expect them. -/
def harmless : List Nat := [0, 17, 18, 19, 20, 21, 22, 23, 28]

def names : List String :=
  "EXIT" :: table.map (·.1)

def name (signal : Nat) : String :=
  names.getD signal (toString signal)

def text (signal : Nat) : String :=
  match (table.map (·.2))[signal - 1]? with
  | some text => text
  | none => "Real-time signal " ++ toString (signal - 34)

/-- The number of a signal that is given by number, or by name in letters of any case. -/
def ofText? (cs : Raw) : Option Nat :=
  if !cs.isEmpty && cs.all (·.isDigit) then
    if numberOf cs < limit then some (numberOf cs) else none
  else names.idxOf? (String.ofList (cs.map Char.toUpper))

end GoTasks.Shell.Signal
