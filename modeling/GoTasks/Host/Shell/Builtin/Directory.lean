import GoTasks.Host.Shell.Builtin.Basic

/-!
# Directories

The shell remembers the way it went: the directory it shows may lead through links, and a step
upwards leaves the link and not the directory that it leads to. With an option, the directory is
shown as it is.
-/

namespace GoTasks.Shell.Builtin

def directoryName : Raw := "PWD".toList

def formerDirectoryName : Raw := "OLDPWD".toList

def partsOf (cs : Raw) : List Raw :=
  (Path.segments (bytesOf cs)).map raw

/-- The directory that a step leads to, the parts of the way to it given last first. -/
def stepFrom (way : List Raw) (part : Raw) : List Raw :=
  if part.isEmpty || part = ['.'] then way
  else if part = ['.', '.'] then way.tail
  else part :: way

/-- A directory as it is shown once one has gone to a name from it. -/
def shownAfter (shown name : Raw) : Raw :=
  let isDouble := fun (cs : Raw) => (cs.takeWhile (· = '/')).length = 2
  let absolute := name.head? = some '/'
  let start := if absolute then [] else (partsOf shown).foldl stepFrom []
  let way := ((partsOf name).foldl stepFrom start).reverse
  let root := if isDouble (if absolute then name else shown) then ['/', '/'] else ['/']
  root ++ Parameters.joinedBy ['/'] way

/-- Whether a name is looked for where it says only. -/
def isPlaced (name : Raw) : Bool :=
  name.head? = some '/' ||
    (Path.segments (bytesOf name)).head?.any fun s => s = Path.dot || s = Path.dotDot

/-- The places that a directory is looked for in, each as a name of it, and whether it is shown
when it is found there. -/
def places (s : State) (name : Raw) : List (Raw × Bool) :=
  if isPlaced name then [(name, false)]
  else
    let directories := match s.parameters.lookUp "CDPATH".toList with
      | some path => (Image.directories (bytesOf path)).map raw
      | none => []
    directories.map (fun d => (raw (Image.candidate (bytesOf d) (bytesOf name)).bytes, !d.isEmpty))
      ++ [(name, false)]

/-- Go to a directory that is shown in some way. -/
def moveTo (s : State) (loc : Location) (shown : Raw) : State :=
  let moved := { s with cwd := loc, shownDirectory := shown }
  (moved.setVariable formerDirectoryName s.shownDirectory true).setVariable directoryName shown true

/-- Go to a directory by name, if that leads to one. -/
def enter? (s : State) (physical : Bool) (name : Raw) : Option State :=
  let enterAt := fun (cs : Raw) => (s.host.tree.enter s.cwd ⟨bytesOf cs⟩).toOption
  if physical then
    (enterAt name).map fun loc => moveTo s loc (raw (FileTree.pathOf loc).bytes)
  else
    let shown := shownAfter s.shownDirectory name
    (enterAt shown).map fun loc => moveTo s loc shown

/-- Go to a directory: by default that of the user, and with a minus sign to the one before. -/
def changeDirectory : Action := fun s line arguments =>
  withOptions s line "cd" "LP" arguments fun options rest =>
    let physical := options.getLast? = some 'P'
    let named := match rest with
      | [] => (s.parameters.lookUp "HOME".toList).getD []
      | name :: _ =>
        if name = ['-'] then (s.parameters.lookUp formerDirectoryName).getD [] else name
    let name := if named.isEmpty then ['.'] else named
    let shows := rest.head? = some ['-']
    let found? := (places s name).findSome? fun (place, shown) =>
      if (s.host.tree.enter s.cwd ⟨bytesOf place⟩).isOk || place = name then
        (enter? s physical place).map (·, shown)
      else none
    match found? with
    | none => giveUp s line "cd" (rawText "can't cd to " ++ named)
    | some (moved, shown) =>
      .ok ((if shows || shown then moved.write (moved.shownDirectory ++ ['\n']) else moved).done 0)

def pwd : Action := fun s line arguments =>
  withOptions s line "pwd" "LP" arguments fun options _ =>
    let shown := if options.getLast? = some 'P' then raw (FileTree.pathOf s.cwd).bytes
      else s.shownDirectory
    .ok ((s.write (shown ++ ['\n'])).done 0)

end GoTasks.Shell.Builtin
