import GoTasks.Host.FileTree

/-!
# Reading and changing files

Each access answers as the operating system would: with a result, or with the error that says
why not. Paths are read from a working directory.
-/

namespace GoTasks.FileTree

def isFile (t : FileTree) (cwd : Location) (p : Path) : Bool :=
  match t.resolve cwd p with
  | .ok (_, .file content _) => content ≠ .device
  | _ => false

def isDirectory (t : FileTree) (cwd : Location) (p : Path) : Bool :=
  match t.resolve cwd p with
  | .ok (_, .directory) => true
  | _ => false

/-- The location of the directory that a path leads to. -/
def enter (t : FileTree) (cwd : Location) (p : Path) : Except SystemError Location := do
  match ← t.resolve cwd p with
  | (loc, .directory) => .ok loc
  | _ => .error .notDirectory

def read (t : FileTree) (cwd : Location) (p : Path) : Except SystemError Bytes := do
  match ← t.resolve cwd p with
  | (_, .file content _) => .ok (content.bytes)
  | _ => .error .isDirectory

/-- The bytes of the file at a location; none, if there is no file. -/
def bytesAt (t : FileTree) (loc : Location) : Bytes :=
  match t.entry? loc with
  | some (.file content _) => content.bytes
  | _ => []

/-- Where a file can be written: its location, what it holds and whether it is executable, if
it exists. -/
def writable (t : FileTree) (cwd : Location) (p : Path) :
    Except SystemError (Location × FileContent × Bool) := do
  match ← t.destination cwd true p with
  | .free loc separated => if separated then .error .isDirectory else .ok (loc, .data [], false)
  | .existing loc =>
    match t.entry? loc with
    | some (.file content executable) => .ok (loc, content, executable)
    | _ => .error .isDirectory

/-- Open a file for writing, which creates it, and empties it unless it is to be continued. -/
def openFile (t : FileTree) (cwd : Location) (p : Path) (continued : Bool) :
    Except SystemError (Location × FileTree) := do
  let (loc, old, executable) ← t.writable cwd p
  pure (loc, t.put loc (.file (old.replaced (if continued then old.bytes else [])) executable))

/-- Put other bytes in the file at a location, if there is one. -/
def setBytes (t : FileTree) (loc : Location) (bytes : Bytes) : FileTree :=
  match t.entry? loc with
  | some (.file content executable) => t.put loc (.file (content.replaced bytes) executable)
  | _ => t

/-- A path without the separators at its end, which do not lead through a link when something is
made or removed under a name. -/
def ownName (p : Path) : Path :=
  let name := (p.bytes.reverse.dropWhile (· = Path.separator)).reverse
  if name.isEmpty then p else ⟨name⟩

def makeDirectory (t : FileTree) (cwd : Location) (p : Path) : Except SystemError FileTree := do
  match ← t.destination cwd false (ownName p) with
  | .existing _ => .error .alreadyExists
  | .free loc _ => .ok (t.put loc .directory)

/-- A change of a tree that may stop half-way: the tree after it, and the error it stopped at. -/
abbrev Attempt := FileTree × Option SystemError

/-- Make one directory if there is none, whatever else is the matter with its path. -/
def ensureDirectory (t : FileTree) (cwd : Location) (p : Path) : Attempt :=
  match t.makeDirectory cwd p with
  | .ok made => (made, none)
  | .error e => if t.isDirectory cwd p then (t, none) else (t, some e)

/-- Make the first of some directories, each of which lies in the one after it. Those that are
missing are made too, and stay if it comes to nothing in the end. -/
def makeDirectories (t : FileTree) (cwd : Location) : List Path → Attempt
  | [] => (t, some .noEntry)
  | p :: above =>
    if p.bytes.isEmpty then (t, none)
    else
      match t.ensureDirectory cwd p with
      | (made, none) => (made, none)
      | (_, some e) =>
        if e.isNotFound then
          match t.makeDirectories cwd above with
          | (below, none) => below.ensureDirectory cwd p
          | failed => failed
        else (t, some e)

/-- Make a directory and those above it. -/
def makePath (t : FileTree) (cwd : Location) (p : Path) : Attempt :=
  t.makeDirectories cwd p.ancestors

def makeParents (t : FileTree) (cwd : Location) (p : Path) : Attempt :=
  match p.parent? with
  | none => (t, none)
  | some q => t.makePath cwd q

/-- Write a whole file. It stays executable if it was. -/
def write (t : FileTree) (cwd : Location) (p : Path) (bytes : Bytes) (executable : Bool) :
    Except SystemError FileTree := do
  let (loc, old, was) ← t.writable cwd p
  pure (t.put loc (.file (old.replaced bytes) (was || executable)))

def makeLink (t : FileTree) (cwd : Location) (p target : Path) : Except SystemError FileTree := do
  match ← t.destination cwd false (ownName p) with
  | .existing _ => .error .alreadyExists
  | .free loc _ => if ownName p = p then .ok (t.put loc (.link target)) else .error .noEntry

/-- Whether a location has something below it. -/
def isFilled (t : FileTree) (loc : Location) : Bool :=
  t.entries.any fun x => x.1 ≠ loc && loc.isPrefixOf x.1

def removeDirectory (t : FileTree) (cwd : Location) (p : Path) : Except SystemError FileTree := do
  match ← t.destination cwd false (ownName p) with
  | .free .. => .error .noEntry
  | .existing loc =>
    let last := (Path.segments (ownName p).bytes).getLast?
    if last = some Path.dot then .error .invalidArgument
    else if last = some Path.dotDot || t.isFilled loc then .error .notEmpty
    else if t.entry? loc = some .directory then .ok (t.prune loc)
    else .error .notDirectory

/-- Remove what a path names: a directory with all in it, a file, or a link itself. What was in a
directory is gone even if the directory stays. -/
def removeAll (t : FileTree) (cwd : Location) (p : Path) : Attempt :=
  match t.destination cwd false p with
  | .error e => (t, some e)
  | .ok (.free ..) => (t, some .noEntry)
  | .ok (.existing loc) =>
    if t.entry? loc = some .directory then
      let emptied : FileTree := ⟨t.entries.filter fun x => x.1 = loc || !loc.isPrefixOf x.1⟩
      match emptied.removeDirectory cwd p with
      | .ok removed => (removed, none)
      | .error e => (emptied, some e)
    else (t.prune loc, none)

/-- Remove a file or a link, but no directory. -/
def remove (t : FileTree) (cwd : Location) (p : Path) : Except SystemError FileTree := do
  match ← t.destination cwd false p with
  | .free .. => .error .noEntry
  | .existing loc =>
    if t.entry? loc = some .directory then .error .isDirectory else .ok (t.prune loc)

def names (t : FileTree) (dir : Location) : List Bytes :=
  t.entries.filterMap fun (loc, _) => if loc.dropLast = dir then loc.getLast? else none

/-- The tree with what is at one location, and below it, put at another one as well. -/
def graft (t : FileTree) (source target : Location) : FileTree :=
  let grown := t.entries.filterMap fun (loc, e) =>
    if source.isPrefixOf loc then some (target ++ loc.drop source.length, e) else none
  ⟨grown ++ t.entries.filter fun x => (grown.lookup x.1).isNone⟩

/-- Make the file at a location executable, or not. -/
def setExecutable (t : FileTree) (loc : Location) (executable : Bool) : FileTree :=
  match t.entry? loc with
  | some (.file content _) => t.put loc (.file content executable)
  | _ => t

end GoTasks.FileTree
