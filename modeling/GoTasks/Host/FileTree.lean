import GoTasks.Path.Basic
import GoTasks.SystemError

/-!
# File trees

A file tree holds directories, files and links, each at a *location*: the names on the way to
it from the root. A location names at most one thing, so it is what a path is resolved to. A
path is not: it may step up, step nowhere, and pass through links.

Resolving goes through the segments of a path one by one. A link met on the way is replaced by
the segments of its target, and only so many links are followed.
-/

namespace GoTasks

/-- The programs that a host comes with, by what they do. -/
inductive Tool where
  | shell
  | environment
  | printVariables
  | locate
  | concatenate
  | firstLines
  | lastLines
  | count
  | distribute
  | list
  | delete
  | removeDirectory
  | makeDirectory
  | touch
  | copy
  | move
  | link
  | setMode
  | echo
  | format
  | test
  | bracket
  | sequence
  | lastPart
  | parentPart
  | directory
  | sleep
  | succeed
  | fail
  deriving DecidableEq, Repr

/-- What a file holds: data, or one of the programs of the host. A device holds nothing, whatever
is written to it. -/
inductive FileContent where
  | data (bytes : Bytes)
  | tool (tool : Tool)
  | device
  deriving DecidableEq, Repr

namespace FileContent

/-- The data of a file. The programs of the host show none. -/
def bytes : FileContent → Bytes
  | data bytes => bytes
  | tool _ | device => []

/-- What a file holds once other bytes have been written to it. -/
def replaced (content : FileContent) (bytes : Bytes) : FileContent :=
  match content with
  | device => device
  | _ => data bytes

end FileContent

/-- What can stand at a location. -/
inductive FileEntry where
  | directory
  | file (content : FileContent) (executable : Bool)
  | link (target : Path)
  deriving DecidableEq, Repr

/-- The names on the way from the root. -/
abbrev Location := List Bytes

/-- Everything below the root, in no particular order. -/
structure FileTree where
  entries : List (Location × FileEntry)
  deriving DecidableEq, Repr

namespace FileTree

def nameLimit : Nat := 255

def pathLimit : Nat := 4096

def linkLimit : Nat := 40

/-- What stands at a location. The root is a directory. -/
def entry? (t : FileTree) (loc : Location) : Option FileEntry :=
  if loc.isEmpty then some .directory
  else (t.entries.find? (·.1 = loc)).map (·.2)

/-- The tree with an entry put at a location, in place of what was there. -/
def put (t : FileTree) (loc : Location) (e : FileEntry) : FileTree :=
  ⟨(loc, e) :: t.entries.filter (·.1 ≠ loc)⟩

/-- The tree without a location and all below it. -/
def prune (t : FileTree) (loc : Location) : FileTree :=
  ⟨t.entries.filter fun x => !loc.isPrefixOf x.1⟩

/-- What a path leads to: something that exists, or a free place in a directory that exists.
The path of a free place may end in separators. -/
inductive Destination where
  | existing (loc : Location)
  | free (loc : Location) (separated : Bool)
  deriving DecidableEq, Repr

/-- Where segments lead from a directory. If the last one is a link, it is followed only if
`followLast` says so. -/
def walk (t : FileTree) (followLast : Bool) (links : Nat) (dir : Location) :
    List Bytes → Except SystemError Destination
  | [] => .ok (.existing dir)
  | s :: rest =>
    if Path.isNoise s then t.walk followLast links dir rest
    else if s = Path.dotDot then t.walk followLast links dir.dropLast rest
    else if nameLimit < s.length then .error .nameTooLong
    else
      match t.entry? (dir ++ [s]) with
      | none =>
        if rest.all (· = []) then .ok (.free (dir ++ [s]) (!rest.isEmpty)) else .error .noEntry
      | some .directory => t.walk followLast links (dir ++ [s]) rest
      | some (.file ..) =>
        if rest.isEmpty then .ok (.existing (dir ++ [s])) else .error .notDirectory
      | some (.link target) =>
        if rest.isEmpty && !followLast then .ok (.existing (dir ++ [s]))
        else if target.bytes.isEmpty then .error .noEntry
        else
          match links with
          | 0 => .error .tooManyLinks
          | links + 1 =>
            t.walk followLast links (if target.isAbsolute then [] else dir)
              (Path.segments target.bytes ++ rest)
termination_by segments => (links, segments.length)

/-- Where a path leads, read from a directory. -/
def destination (t : FileTree) (cwd : Location) (followLast : Bool) (p : Path) :
    Except SystemError Destination :=
  if p.bytes.contains 0 then .error .zeroByteInName
  else if p.bytes.isEmpty then .error .noEntry
  else if pathLimit ≤ p.bytes.length then .error .nameTooLong
  else t.walk followLast linkLimit (if p.isAbsolute then [] else cwd) (Path.segments p.bytes)

/-- What a path leads to, if anything, with its location. -/
def resolve (t : FileTree) (cwd : Location) (p : Path) :
    Except SystemError (Location × FileEntry) := do
  match ← t.destination cwd true p with
  | .free .. => .error .noEntry
  | .existing loc =>
    match t.entry? loc with
    | none => .error .noEntry
    | some e => .ok (loc, e)

def pathOf (loc : Location) : Path :=
  ⟨Path.separator :: Path.joinSegments loc⟩

end FileTree
end GoTasks
