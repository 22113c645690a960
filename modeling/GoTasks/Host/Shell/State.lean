import GoTasks.Host.Launch
import GoTasks.Host.Shell.Pathname
import GoTasks.Host.Shell.Syntax

/-!
# Shells

A running shell has a *frame*, which it hands on to the copies that it makes of itself, and the
host around it. A copy runs what stands between parentheses, what a word replaces by its output,
a part of a pipeline, or a job, which is a command that is not waited for.

No time passes on a host. So a job is put off: it runs when the shell waits for it, when the
shell waits for time to pass, and at the end of the shell at the latest. A signal that reaches it
before that keeps it from running.

A shell ends with a wait status: by leaving, by a signal, or at the end of its script. Short of
that, a command can break off the loop, the function or the file it stands in.
-/

namespace GoTasks.Shell

/-- Why a shell does not go on to the next command. -/
inductive Halt where
  /-- The script has ended. -/
  | ended (status : WaitStatus)
  /-- The process of the shell has ended, or become another program and ended with it. -/
  | gone (status : WaitStatus)
  /-- So many loops are left. -/
  | loop (levels : Nat)
  /-- So many loops are left, but for the last, of which a turn is over. -/
  | turn (levels : Nat)
  /-- The function or the file is left. -/
  | returned
  deriving DecidableEq, Repr

/-- What a shell hands on to a copy of itself. -/
structure Frame where
  parameters : Parameters
  cwd : Location
  /-- The directory as the shell shows it. -/
  shownDirectory : Raw
  channels : List (Nat × Channel)
  functions : List (Raw × Command)
  aliases : Aliases
  /-- What is to be done on signals, the end of the shell being one of number zero. -/
  traps : List (Nat × Raw)
  /-- The signals that the process was started to ignore. -/
  ignored : List Nat
  /-- What nobody may do with new files. -/
  mask : Nat
  /-- Whether a command is run to learn whether it fails. -/
  asking : Bool
  /-- How many loops there are to break off. -/
  loops : Nat
  /-- How many characters of a group of options have been read, if one is being read. -/
  optionOffset? : Option Nat
  /-- The command on whose behalf commands are run, if there is one. -/
  behalf? : Option Raw
  deriving DecidableEq, Repr

/-- A command that is not waited for: its process, and what is left to do or has come of it. -/
structure Job where
  process : Nat
  frame : Frame
  body : Command
  status? : Option WaitStatus
  deriving DecidableEq, Repr

/-- The state of a running shell. -/
structure State extends Frame where
  host : Host
  /-- The number of the process that the shell is, be it a copy. -/
  process : Nat
  /-- The number of the process that started it. -/
  parent : Nat
  jobs : List Job
  /-- The variables that the functions being run will put back, innermost first. -/
  kept : List (List (Raw × Option Variable))
  /-- The exit code of the last script that a word was replaced by the output of. -/
  substituted : Nat
  /-- Whether something could not be written. -/
  unwritten : Bool
  halt? : Option Halt
  deriving DecidableEq, Repr

/-- The letters of the options, in the order they are shown in. -/
def optionLetters : List Char := "ubaCEVvxsnmiIfe".toList

/-- The options by name, each with its letter if it has one, in the order they are listed in. -/
def optionNames : List (String × Option Char) :=
  [("errexit", some 'e'), ("noglob", some 'f'), ("ignoreeof", some 'I'), ("interactive", some 'i'),
   ("monitor", some 'm'), ("noexec", some 'n'), ("stdin", some 's'), ("xtrace", some 'x'),
   ("verbose", some 'v'), ("vi", some 'V'), ("emacs", some 'E'), ("noclobber", some 'C'),
   ("allexport", some 'a'), ("notify", some 'b'), ("nounset", some 'u'), ("privileged", some 'p'),
   ("nolog", none), ("debug", none)]

namespace State

/-- The state with the exit code of a command. -/
def done (s : State) (code : Nat) : State :=
  { s with parameters := { s.parameters with status := code } }

def has (s : State) (option : Char) : Bool :=
  s.parameters.options.contains option

/-- Write to a descriptor. What cannot be written is taken note of. -/
def writeTo (s : State) (descriptor : Nat) (cs : Raw) : State :=
  match s.channels.lookup descriptor with
  | some channel =>
    if channel.isWritable then { s with host := s.host.write channel (bytesOf cs) }
    else { s with unwritten := s.unwritten || !cs.isEmpty }
  | none => { s with unwritten := s.unwritten || !cs.isEmpty }

def write (s : State) (cs : Raw) : State :=
  s.writeTo 1 cs

/-- Write a line as it is where complaints go. -/
def remark (s : State) (cs : Raw) : State :=
  { s.writeTo 2 (cs ++ ['\n']) with unwritten := s.unwritten }

/-- Write a message, with the name of the script and the number of a line before it. -/
def complainPlainly (s : State) (line : Nat) (message : Raw) : State :=
  s.remark (s.parameters.scriptName ++ rawText (": " ++ toString line ++ ": ") ++ message)

/-- Write a message of the shell itself, which tells on whose behalf it runs. -/
def complain (s : State) (line : Nat) (message : Raw) : State :=
  let behalf := match s.behalf? with
    | some name => name ++ [':', ' ']
    | none => []
  s.complainPlainly line (behalf ++ message)

def complainAs (s : State) (line : Nat) (command : String) (message : Raw) : State :=
  s.complainPlainly line (rawText (command ++ ": ") ++ message)

def setVariable (s : State) (name value : Raw) (exported : Bool) : State :=
  { s with parameters := s.parameters.setVariable name value (exported || s.has 'a') }

def setPositional (s : State) (values : List Raw) : State :=
  { s with parameters := { s.parameters with positional := values } }

/-- End the script with an exit code, of which one byte counts. -/
def leave (s : State) (code : Nat) : State :=
  { s with halt? := some (.ended (.exited (UInt8.ofNat code))) }

/-- End the script since it cannot go on. -/
def abandon (s : State) : State :=
  (s.done 2).leave 2

/-- End the process of the shell. -/
def die (s : State) (status : WaitStatus) : State :=
  { s with halt? := some (.gone status) }

def finalStatus (s : State) : WaitStatus :=
  match s.halt? with
  | some (.ended status) | some (.gone status) => status
  | _ => .exited (UInt8.ofNat s.parameters.status)

/-- Whether nothing more is to be done for now. -/
def isHalted (s : State) : Bool :=
  s.halt?.isSome

/-- The state at the end of a turn of a loop, which does not halt the loop if it is its own. -/
def endTurn (s : State) : State :=
  match s.halt? with
  | some (.turn 0) | some (.turn 1) => { s with halt? := none }
  | _ => s

/-- The state at the end of a loop. What breaks off more loops goes on to do so. -/
def endLoop (s : State) : State :=
  let halt? := match s.halt? with
    | some (.loop levels) => if levels ≤ 1 then none else some (.loop (levels - 1))
    | some (.turn levels) => if levels ≤ 1 then none else some (.turn (levels - 1))
    | halt? => halt?
  { s with halt? }

/-- The state at the end of a function or a file, which can be left on its own. -/
def endCall (s : State) : State :=
  if s.halt? = some .returned then { s with halt? := none } else s

/-- The variables that a program is given, as `name=value`. -/
def childVariables (s : State) : List Bytes :=
  s.parameters.exports.map fun (name, value) => bytesOf (name ++ '=' :: value)

/-- What a program is given that the shell starts as a process of some number. -/
def childContext (s : State) (number parent : Nat) : ProcessContext :=
  let ignored := s.ignored ++ (s.traps.filter (·.2.isEmpty)).map (·.1)
  ⟨number, parent, s.childVariables, s.cwd, s.channels, ignored⟩

/-- Put a variable back, which may not have been there. -/
def putBack (s : State) (name : Raw) (before? : Option Variable) : State :=
  match before? with
  | some before => { s with parameters := s.parameters.change name fun _ => before }
  | none =>
    let named := s.parameters.named.filter (·.name ≠ name)
    { s with parameters := { s.parameters with named } }

/-- Take note of a variable that will be put back at the end of the function, unless there is
none or it has been taken note of. -/
def keep (s : State) (name : Raw) : State :=
  match s.kept with
  | [] => s
  | own :: others =>
    if own.any (·.1 = name) then s
    else { s with kept := ((name, s.parameters.find? name) :: own) :: others }

def beginKeeping (s : State) : State :=
  { s with kept := [] :: s.kept }

/-- Put the variables back that have been taken note of last. -/
def endKeeping (s : State) : State :=
  match s.kept with
  | [] => s
  | own :: others =>
    own.foldl (fun s (name, before?) => s.putBack name before?) { s with kept := others }

/-- The action for a signal, if there is one; an empty one ignores it. -/
def trap? (s : State) (signal : Nat) : Option Raw :=
  s.traps.lookup signal

/-- The state with a trap set, or with none. -/
def setTrap (s : State) (signal : Nat) (action? : Option Raw) : State :=
  let others := s.traps.filter (·.1 ≠ signal)
  match action? with
  | some action => { s with traps := (signal, action) :: others }
  | none => { s with traps := others }

def function? (s : State) (name : Raw) : Option Command :=
  s.functions.lookup name

/-- The frame of a copy. It has none of the traps but for those that ignore something. -/
def copiedFrame (s : State) : Frame :=
  { s.toFrame with traps := s.traps.filter (·.2.isEmpty) }

/-- A state in which nothing has happened yet, for a frame and a process with its parent. -/
def ofFrame (f : Frame) (process parent : Nat) (host : Host) : State :=
  { f with
    host, process, parent
    jobs := []
    kept := []
    substituted := 0
    unwritten := false
    halt? := none }

/-- A copy of a shell, as a process of its own. It cannot wait for the jobs. -/
def copy (s : State) : State :=
  let (number, host) := s.host.addProcess
  { State.ofFrame s.copiedFrame number s.process host with kept := s.kept }

end State

/-- Why something could not be done; what is missing is put in the words of the request. -/
def reason (ifMissing : String) (e : SystemError) : Raw :=
  if e = .noEntry || e = .notDirectory then rawText ifMissing
  else
    match e with
    | .numbered n => rawText (errorName n)
    | .described _ text => rawText text

/-- The descriptor that the name of a file stands for, if it is no file of its own. -/
def descriptorOf? (name : Raw) : Option Nat :=
  [("/dev/stdin", 0), ("/dev/stdout", 1), ("/dev/stderr", 2), ("/dev/fd/0", 0), ("/dev/fd/1", 1),
    ("/dev/fd/2", 2)].lookup (String.ofList name)

namespace State

/-- Let a descriptor lead to a channel, or to none. -/
def connect (s : State) (descriptor : Nat) (channel? : Option Channel) : State :=
  let others := s.channels.filter (·.1 ≠ descriptor)
  match channel? with
  | some channel => { s with channels := (descriptor, channel) :: others }
  | none => { s with channels := others }

/-- Let a descriptor lead to a stream that is opened for it. -/
def connectStream (s : State) (descriptor : Nat) (stream : Stream) (reads writes : Bool) : State :=
  let (number, host) := s.host.openStream stream
  { s with host }.connect descriptor (some (.stream number reads writes))

def refuse (s : State) (line : Nat) (message : Raw) : Except State State :=
  .error ((s.complain line message).done 2)

/-- Let a descriptor lead where another one does. -/
def duplicate (s : State) (line descriptor : Nat) (target : Raw) : Except State State :=
  match target with
  | ['-'] => .ok (s.connect descriptor none)
  | [c] =>
    if !c.isDigit then .error ((s.complain line (rawText "Syntax error: Bad fd number")).abandon)
    else
      match s.channels.lookup (numberOf target) with
      | some channel => .ok (s.connect descriptor (some channel))
      | none => s.refuse line (target ++ rawText (": " ++ errorName 9))
  | _ => .error ((s.complain line (rawText "Syntax error: Bad fd number")).abandon)

/-- Whether a file is to be kept as it is. -/
def isKept (s : State) (name : Raw) : Bool :=
  s.has 'C' && s.host.tree.isFile s.cwd ⟨bytesOf name⟩

def connectFile (s : State) (line descriptor : Nat) (kind : RedirectKind) (name : Raw) :
    Except State State :=
  let cannot := fun (why : Raw) =>
    s.refuse line (rawText "cannot create " ++ name ++ [':', ' '] ++ why)
  match (descriptorOf? name).map (s.channels.lookup ·) with
  | some channel? => .ok (s.connect descriptor channel?)
  | none =>
    if kind = .write && s.isKept name then cannot (rawText (errorName 17))
    else
      match s.host.tree.openFile s.cwd ⟨bytesOf name⟩ (kind = .append || kind = .readWrite) with
      | .ok (loc, tree) =>
        let opened := { s with host := { s.host with tree } }
        let reads := kind = RedirectKind.readWrite
        let atEnd := kind = RedirectKind.append
        .ok (opened.connectStream descriptor (.file loc 0 atEnd) reads true)
      | .error e => cannot (reason "Directory nonexistent" e)

/-- Open a file for a descriptor to read from. A directory holds nothing to read. -/
def connectInput (s : State) (line descriptor : Nat) (name : Raw) : Except State State :=
  match (descriptorOf? name).map (s.channels.lookup ·) with
  | some channel? => .ok (s.connect descriptor channel?)
  | none =>
    match s.host.tree.resolve s.cwd ⟨bytesOf name⟩ with
    | .ok (loc, _) => .ok (s.connectStream descriptor (.file loc 0 false) true false)
    | .error e =>
      s.refuse line (rawText "cannot open " ++ name ++ [':', ' '] ++ reason "No such file" e)

def redirect (s : State) (line descriptor : Nat) (kind : RedirectKind) (target : Raw) :
    Except State State :=
  match kind with
  | .write | .overwrite | .append | .readWrite => s.connectFile line descriptor kind target
  | .read => s.connectInput line descriptor target
  | .duplicate => s.duplicate line descriptor target
  | .document => .ok (s.connectStream descriptor (.pipe (bytesOf target)) true false)

/-- Let descriptors lead where they led before. -/
def reconnect (before s : State) (descriptors : List Nat) : State :=
  descriptors.foldl (fun s n => s.connect n (before.channels.lookup n)) s

/-- Take a line of what can be read from a descriptor: its bytes, and whether it has an end. -/
def takeLine (s : State) (descriptor : Nat) : Bytes × Bool × State :=
  match (s.channels.lookup descriptor).bind Channel.readable? with
  | some number =>
    let held := s.host.held number
    let line := held.takeWhile (· ≠ 0x0A)
    let rest := held.drop line.length
    (line, !rest.isEmpty, { s with host := s.host.hold number (rest.drop 1) })
  | none => ([], false, s)

end State
end GoTasks.Shell
