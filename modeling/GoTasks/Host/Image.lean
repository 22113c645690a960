import GoTasks.Host.FileAccess

/-!
# Starting programs

A command line becomes a running program in two steps. First a file is found: under the name
itself if it has a separator, and otherwise in the directories of a search path, one after the
other. Then the file is loaded: a program of the host as it is, and a script by way of the
interpreter that its first line names.

Both steps only look. What they find is an *image*, a program with its arguments.
-/

namespace GoTasks

/-- A program of the host with the arguments it gets, its own name first. -/
structure Image where
  tool : Tool
  arguments : List Bytes
  deriving DecidableEq, Repr

namespace Image

def interpreterLimit : Nat := 5

/-- The bytes that introduce an interpreter. -/
def introduction : Bytes := Text.Utf8.encode "#!"

def isGap (b : UInt8) : Bool :=
  b = 0x20 || b = 0x09

def dropTrailingGaps (bytes : Bytes) : Bytes :=
  (bytes.reverse.dropWhile isGap).reverse

/-- The interpreter that a script names, and the argument it is given, if any. -/
def interpreter? (content : Bytes) : Option (Path × Option Bytes) :=
  if introduction.isPrefixOf content then
    let line := dropTrailingGaps
      (((content.drop introduction.length).takeWhile (· ≠ 0x0A)).dropWhile isGap)
    let name := line.takeWhile (!isGap ·)
    let argument := (line.dropWhile (!isGap ·)).dropWhile isGap
    if name.isEmpty then none
    else some (⟨name⟩, if argument.isEmpty then none else some argument)
  else none

def load (t : FileTree) (cwd : Location) (file : Path) (arguments : List Bytes) :
    Nat → Except SystemError Image
  | 0 => .error .tooManyLinks
  | limit + 1 => do
    match ← t.resolve cwd file with
    | (_, .file (.tool tool) true) => .ok ⟨tool, arguments⟩
    | (_, .file (.data content) true) =>
      match interpreter? content with
      | none => .error .execFormat
      | some (program, argument?) =>
        load t cwd program
          ([program.bytes] ++ argument?.toList ++ [file.bytes] ++ arguments.tail) limit
    | _ => .error .permissionDenied

/-- When a file of no known format is given to the shell. -/
inductive Leniency where
  | never
  /-- If it was found in a search path. -/
  | searched
  | always
  deriving DecidableEq, Repr

/-- Whether a file of no known format that has been named is given to the shell. -/
def Leniency.accepts (l : Leniency) (searched : Bool) : Bool :=
  match l with
  | never => false
  | Leniency.searched => searched
  | always => true

/-- The shell that is given files of no known format. -/
def shellPath : Path := .ofText "/bin/sh"

/-- Load a file; if `leniently`, one of no known format is given to the shell. -/
def loadFile (t : FileTree) (cwd : Location) (leniently : Bool) (file : Path)
    (arguments : List Bytes) : Except SystemError Image :=
  match load t cwd file arguments interpreterLimit with
  | .error e =>
    if leniently && e = .execFormat then
      load t cwd shellPath ([shellPath.bytes, file.bytes] ++ arguments.tail) interpreterLimit
    else .error e
  | .ok image => .ok image

def usualSearchPath : Bytes := Text.Utf8.encode "/bin:/usr/bin"

def searchSeparator : UInt8 := 0x3A

/-- The directories of a search path. An empty one stands for the working directory. -/
def directories : Bytes → List Bytes
  | [] => [[]]
  | b :: rest =>
    if b = searchSeparator then [] :: directories rest
    else
      match directories rest with
      | [] => [[b]]
      | d :: ds => (b :: d) :: ds

/-- The file of a name in a directory of a search path. -/
def candidate (directory name : Bytes) : Path :=
  if directory.isEmpty then ⟨name⟩ else ⟨directory ++ Path.separator :: name⟩

/-- Whether an error lets a search go on. -/
def isPassedOver (e : SystemError) : Bool :=
  e = .noEntry || e = .notDirectory || e = .permissionDenied

/-- Load the first file that can be loaded. If none can, being denied one outweighs all other
reasons, and of those the last counts. -/
def loadFirst (loadOne : Path → Except SystemError Image) (denied : Bool) (last : SystemError) :
    List Path → Except SystemError Image
  | [] => .error (if denied then .permissionDenied else last)
  | file :: rest =>
    match loadOne file with
    | .ok image => .ok image
    | .error e =>
      if isPassedOver e then loadFirst loadOne (denied || e = .permissionDenied) e rest
      else .error e

/-- The image of a command line, for a working directory and a search path. -/
def find (t : FileTree) (cwd : Location) (searchPath? : Option Bytes) (leniency : Leniency)
    (name : Bytes) (arguments : List Bytes) : Except SystemError Image :=
  let searched := !name.contains Path.separator
  let loadOne := fun file =>
    loadFile t cwd (leniency.accepts searched) file (name :: arguments)
  if name.isEmpty then .error .noEntry
  else if !searched then loadOne ⟨name⟩
  else if FileTree.nameLimit < name.length then .error .nameTooLong
  else
    loadFirst loadOne false .noEntry
      ((directories (searchPath?.getD usualSearchPath)).map (candidate · name))

end Image
end GoTasks
