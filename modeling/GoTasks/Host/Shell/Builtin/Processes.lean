import GoTasks.Host.Shell.Builtin.Basic
import GoTasks.Host.Shell.Builtin.Variables
import GoTasks.Host.Shell.Signal

/-!
# Signals and traps

The commands that send signals, and that say what is to be done when one arrives. A signal is
only put on its way here: the shell looks for those that have arrived after each command.
-/

namespace GoTasks.Shell.Builtin

def knownProcesses (s : State) : List Nat :=
  [s.process, s.parameters.process, s.parent] ++ s.jobs.map (·.process)

/-- The process that an argument names: by its number, or as a job by that of the job. -/
def process? (s : State) (argument : Raw) : Except Raw (Option Nat) :=
  match argument with
  | '%' :: _ =>
    match (number? argument.tail).bind fun n => if n = 0 then none else s.jobs[n - 1]? with
    | some job => .ok (some job.process)
    | none => .error (rawText "No such job: " ++ argument)
  | _ =>
    match number? argument with
    | some n => .ok (if (knownProcesses s).contains n then some n else none)
    | none => .error (rawText "Illegal number: " ++ argument)

def sendOne (line signal : Nat) (s : State) (argument : Raw) : Outcome :=
  match process? s argument with
  | .ok (some process) =>
    .ok { s with host := { s.host with sent := s.host.sent ++ [(process, signal)] } }
  | .ok none =>
    .ok ((s.complainAs line "kill" (rawText "No such process\n")).done 1)
  | .error message => giveUp s line "kill" message

def send (s : State) (line signal : Nat) (arguments : List Raw) : Outcome :=
  arguments.foldlM (sendOne line signal) (s.done 0)

def explainKill (s : State) (line : Nat) : Outcome :=
  giveUp s line "kill"
    (rawText ("Usage: kill [-s sigspec | -signum | -sigspec] [pid | job]... or\n" ++
      "kill -l [exitstatus]"))

/-- Show the names of all signals, or of one that an exit code tells of. -/
def listSignals (s : State) (line : Nat) (arguments : List Raw) : Outcome :=
  match arguments with
  | [] =>
    let shown := '0' :: '\n' :: (Signal.names.drop 1).flatMap fun name => rawText (name ++ "\n")
    .ok ((s.write shown).done 0)
  | code :: _ =>
    match number? code with
    | some n =>
      let signal := if 128 < n then n - 128 else n
      if 0 < signal && signal < Signal.limit then
        .ok ((s.write (rawText (Signal.name signal ++ "\n"))).done 0)
      else giveUp s line "kill" (rawText "invalid signal number or exit status: " ++ code)
    | none => refuseNumber s line "kill" code

/-- Send a signal, by default the one that asks to end. -/
def kill : Action := fun s line arguments =>
  match arguments with
  | ('-' :: cs) :: rest =>
    match Signal.ofText? cs with
    | some signal => if rest.isEmpty then explainKill s line else send s line signal rest
    | none =>
      match cs, rest with
      | ['l'], _ => listSignals s line rest
      | ['-'], _ => if rest.isEmpty then explainKill s line else send s line Signal.terminate rest
      | ['s'], name :: processes =>
        match Signal.ofText? name with
        | some signal =>
          if processes.isEmpty then explainKill s line else send s line signal processes
        | none => giveUp s line "kill" (rawText "invalid signal number or name: " ++ name)
      | ['s'], [] => giveUp s line "kill" (rawText "No arg for -s option")
      | c :: _, _ => giveUp s line "kill" (rawText "Illegal option -" ++ [c])
      | [], _ => explainKill s line
  | [] => explainKill s line
  | _ => send s line Signal.terminate arguments

def shownTraps (s : State) : Raw :=
  (List.range Signal.limit).flatMap fun signal =>
    match s.trap? signal with
    | some action =>
      rawText "trap -- " ++ requoted action ++ rawText (" " ++ Signal.name signal ++ "\n")
    | none => []

/-- Say what is to be done on signals: an action, nothing at all, or what is usual. -/
def trap : Action := fun s line arguments =>
  withOptions s line "trap" "" arguments fun _ rest =>
    let setAll := fun (action? : Option Raw) (signals : List Raw) =>
      match signals.find? fun name => (Signal.ofText? name).isNone with
      | some name =>
        let known := (signals.takeWhile (· ≠ name)).filterMap Signal.ofText?
        let s := known.foldl (fun s signal => s.setTrap signal action?) s
        .ok ((s.remark (rawText "trap: " ++ name ++ rawText ": bad trap")).done 1)
      | none =>
        let known := signals.filterMap Signal.ofText?
        .ok ((known.foldl (fun s signal => s.setTrap signal action?) s).done 0)
    match rest with
    | [] => .ok ((s.write (shownTraps s)).done 0)
    | [name] => setAll none [name]
    | action :: signals =>
      if (Signal.ofText? action).isSome then setAll none rest
      else setAll (if action = ['-'] then none else some action) signals

end GoTasks.Shell.Builtin
