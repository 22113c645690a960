import GoTasks.Environment
import GoTasks.Host.FileAccess

/-!
# Hosts

A host is what a run and the commands it starts have in common: the file tree, the two outputs
that they all write to, in turn, and the *streams* that are open: pipes, which hold what has been
written to them, and files. Whoever uses one stream shares it with others. What one of them has
read from it is not read by another, and in a file they go on where another one left off.

A process adds what is its own: its variables, its directory and its descriptors. Processes are
numbered in the order they are started, and can send each other signals.
-/

namespace GoTasks

/-- What can be open: a pipe with the bytes that it holds, or a file with the place where reading
and writing go on. What is written to a file can also be put at its end always. -/
inductive Stream where
  | pipe (held : Bytes)
  | file (loc : Location) (place : Nat) (atEnd : Bool)
  deriving DecidableEq, Repr

/-- A file tree, what has been written to the two outputs, the streams, the number of processes so
far, and the signals sent, each with the process it is for. -/
structure Host where
  tree : FileTree
  out : Bytes
  err : Bytes
  streams : List Stream
  processes : Nat
  sent : List (Nat × Nat)
  deriving DecidableEq, Repr

/-- What a descriptor leads to. -/
inductive Channel where
  | out
  | err
  /-- Takes everything and holds nothing. -/
  | nowhere
  /-- A numbered stream, which may be there to be read, to be written to, or both. -/
  | stream (number : Nat) (reads writes : Bool)
  deriving DecidableEq, Repr

namespace Channel

def isWritable : Channel → Bool
  | stream _ _ writes => writes
  | _ => true

def readable? : Channel → Option Nat
  | stream number true _ => some number
  | _ => none

def written? : Channel → Option Nat
  | stream number _ true => some number
  | _ => none

end Channel

namespace Host

/-- What a stream still holds for those who read from it. -/
def left (h : Host) : Stream → Bytes
  | .pipe held => held
  | .file loc place _ => (h.tree.bytesAt loc).drop place

def held (h : Host) (number : Nat) : Bytes :=
  (h.streams[number]?.map h.left).getD []

/-- The host once a stream has been read up to some bytes, which it still holds. -/
def hold (h : Host) (number : Nat) (bytes : Bytes) : Host :=
  let streams := h.streams.modify number fun
    | .pipe _ => .pipe bytes
    | .file loc _ atEnd => .file loc ((h.tree.bytesAt loc).length - bytes.length) atEnd
  { h with streams }

def location? (h : Host) (number : Nat) : Option Location :=
  match h.streams[number]? with
  | some (.file loc _ _) => some loc
  | _ => none

/-- Open a stream, and tell its number. -/
def openStream (h : Host) (stream : Stream) : Nat × Host :=
  (h.streams.length, { h with streams := h.streams ++ [stream] })

/-- Make an empty pipe, and tell its number. -/
def openPipe (h : Host) : Nat × Host :=
  h.openStream (.pipe [])

/-- Let those who use the files at a location and below it go on to do so, whatever becomes of the
files. -/
def release (h : Host) (loc : Location) : Host :=
  let streams := h.streams.map fun stream =>
    match stream with
    | .pipe _ => stream
    | .file own _ _ => if loc.isPrefixOf own then .pipe (h.left stream) else stream
  { h with streams }

/-- What a file holds once bytes have been written at some place in it, before which there are
zeros if it ends earlier. -/
def overwritten (old : Bytes) (place : Nat) (bytes : Bytes) : Bytes :=
  old.take place ++ List.replicate (place - old.length) 0 ++ bytes ++
    old.drop (place + bytes.length)

/-- Write to a numbered stream. A file that is gone takes bytes and shows them nowhere. -/
def writeToStream (h : Host) (number : Nat) (bytes : Bytes) : Host :=
  match h.streams[number]? with
  | some (.pipe held) => { h with streams := h.streams.set number (.pipe (held ++ bytes)) }
  | some (.file loc place atEnd) =>
    let old := h.tree.bytesAt loc
    let start := if atEnd then old.length else place
    { h with
      tree := h.tree.setBytes loc (overwritten old start bytes)
      streams := h.streams.set number (.file loc (start + bytes.length) atEnd) }
  | none => h

def write (h : Host) (channel : Channel) (bytes : Bytes) : Host :=
  match channel with
  | .out => { h with out := h.out ++ bytes }
  | .err => { h with err := h.err ++ bytes }
  | .nowhere => h
  | .stream number _ writes => if writes then h.writeToStream number bytes else h

def addProcess (h : Host) : Nat × Host :=
  (h.processes + 1, { h with processes := h.processes + 1 })

/-- The signals that wait for a process, in order, and the host without them. -/
def signalsFor (h : Host) (process : Nat) : List Nat × Host :=
  ((h.sent.filter (·.1 = process)).map (·.2), { h with sent := h.sent.filter (·.1 ≠ process) })

end Host

/-- What belongs to one process: its number and that of the process that started it, its
variables, as `name=value` in the order they were given, its directory, its descriptors, and the
signals that it ignores from the start. -/
structure ProcessContext where
  number : Nat
  parent : Nat
  assignments : List Bytes
  cwd : Location
  channels : List (Nat × Channel)
  ignored : List Nat
  deriving DecidableEq, Repr

namespace ProcessContext

/-- What a process writes to a descriptor. If that leads nowhere, nothing is written. -/
def write (ctx : ProcessContext) (descriptor : Nat) (bytes : Bytes) (h : Host) : Host :=
  match ctx.channels.lookup descriptor with
  | some channel => h.write channel bytes
  | none => h

/-- Everything that a process can read, which is gone then. -/
def readAll (ctx : ProcessContext) (h : Host) : Bytes × Host :=
  match (ctx.channels.lookup 0).bind Channel.readable? with
  | some number => (h.held number, h.hold number [])
  | none => ([], h)

end ProcessContext

def Environment.assignmentSign : UInt8 := 0x3D

/-- The variables of an environment, as a process is given them. -/
def Environment.assignments (env : Environment) : List Bytes :=
  env.vars.map fun (name, value) => name ++ assignmentSign :: value

/-- A variable as a started program finds it in its environment. The sign between name and value
is looked for after the first byte, and a variable without one is left out. -/
def receivedVariable (name value : Bytes) : Option (Bytes × Bytes) :=
  match name ++ Environment.assignmentSign :: value with
  | [] => none
  | first :: rest =>
    match rest.dropWhile (· ≠ Environment.assignmentSign) with
    | [] => none
    | _ :: found => some (first :: rest.takeWhile (· ≠ Environment.assignmentSign), found)

/-- An environment as a program that is started with it finds it. -/
def Environment.received (env : Environment) : Environment :=
  .ofList (env.vars.filterMap fun (name, value) => receivedVariable name value)

/-- The name and the value of a variable that a process was given. -/
def splitAssignment (assignment : Bytes) : Bytes × Bytes :=
  (assignment.takeWhile (· ≠ Environment.assignmentSign),
    (assignment.dropWhile (· ≠ Environment.assignmentSign)).drop 1)

/-- The value of a variable of a process; the first of a name counts. -/
def ProcessContext.get? (ctx : ProcessContext) (name : String) : Option Bytes :=
  ((ctx.assignments.map splitAssignment).find? (·.1 = Text.Utf8.encode name)).map (·.2)

end GoTasks
