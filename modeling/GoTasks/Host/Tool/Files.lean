import GoTasks.Host.Tool.Basic

/-!
# Tools for files

Making, removing, copying and listing files and directories.
-/

namespace GoTasks.Tool

/-- The last part of a name, without separators after it. -/
def lastPartOf (name : Bytes) : Bytes :=
  let trimmed := (FileTree.ownName ⟨name⟩).bytes
  match (Path.segments trimmed).getLast? with
  | some [] | none => [Path.separator]
  | some part => part

def inDirectory (directory name : Bytes) : Bytes :=
  (Path.join ⟨directory⟩ ⟨name⟩).bytes

namespace Call

def isDirectory (c : Call) (host : Host) (name : Bytes) : Bool :=
  host.tree.isDirectory c.context.cwd ⟨name⟩

/-- Change the tree, or complain that it cannot be changed. -/
def change (c : Call) (what : String) (name : Bytes) (attempt : FileTree.Attempt) (host : Host) :
    Bool × Host :=
  match attempt with
  | (tree, none) => (true, { host with tree })
  | (tree, some e) => (false, c.complainAbout what (quoted name) e { host with tree })

/-- Change the tree at once, or complain that it cannot be changed. -/
def changeAtOnce (c : Call) (what : String) (name : Bytes) (result : Except SystemError FileTree)
    (host : Host) : Bool × Host :=
  match result with
  | .ok tree => (true, { host with tree })
  | .error e => (false, c.complainAbout what (quoted name) e host)

end Call

/-! ## Removing -/

def deleteOne (c : Call) (name : Bytes) (host : Host) : Bool × Host :=
  let recursive := c.has 'r' || c.has 'R'
  let last := (Path.segments (FileTree.ownName ⟨name⟩).bytes).getLast?
  if recursive && (last = some Path.dot || last = some Path.dotDot) then
    (false, c.complain
      (Text.Utf8.encode "refusing to remove '.' or '..' directory: skipping " ++ quoted name) host)
  else
    let host := match host.tree.destination c.context.cwd false ⟨name⟩ with
      | .ok (.existing loc) => host.release loc
      | _ => host
    let attempt := if recursive then host.tree.removeAll c.context.cwd ⟨name⟩
      else
        let removed := if c.has 'd' && c.isDirectory host name then
            host.tree.removeDirectory c.context.cwd ⟨name⟩
          else host.tree.remove c.context.cwd ⟨name⟩
        match removed with
        | .ok tree => (tree, none)
        | .error e => (host.tree, some e)
    if c.has 'f' && attempt.2 = some .noEntry then (true, { host with tree := attempt.1 })
    else c.change "cannot remove " name attempt host

/-- Remove files. Without any, that is a mistake unless it is forced. -/
def Program.delete : Program where
  flags := "rRfd"
  valued := ""
  names := [("recursive", 'r'), ("force", 'f'), ("dir", 'd')]
  needed := 0
  neededName := "operand"
  misused := 1
  run c host :=
    if c.operands.isEmpty && !c.has 'f' then
      (verdict false, c.explain (Text.Utf8.encode "missing operand") host)
    else forEach c.operands (deleteOne c) host

def Program.removeDirectory : Program where
  flags := ""
  valued := ""
  names := []
  needed := 1
  neededName := "operand"
  misused := 1
  run c host :=
    forEach c.operands
      (fun name host =>
        c.changeAtOnce "failed to remove " name
          (host.tree.removeDirectory c.context.cwd ⟨name⟩) host)
      host

/-! ## Making -/

/-- The name that keeps a directory from being made with those above it: the first of them that is
that of something else, or else its own. -/
def obstacle (c : Call) (host : Host) (name : Bytes) : Bytes :=
  let above := (Path.ancestors ⟨name⟩).reverse.map (·.bytes)
  (above.find? fun n => (c.resolve host n).isOk && !c.isDirectory host n).getD name

/-- Make directories, with those above them if that is wanted. -/
def Program.makeDirectory : Program where
  flags := "p"
  valued := "m"
  names := [("parents", 'p')]
  needed := 1
  neededName := "operand"
  misused := 1
  run c host :=
    forEach c.operands
      (fun name host =>
        let what := "cannot create directory "
        if c.has 'p' then
          c.change what (obstacle c host name) (host.tree.makePath c.context.cwd ⟨name⟩) host
        else c.changeAtOnce what name (host.tree.makeDirectory c.context.cwd ⟨name⟩) host)
      host

/-- Make files, unless there is something of their names. -/
def Program.touch : Program where
  flags := "acm"
  valued := "dtr"
  names := [("no-create", 'c')]
  needed := 1
  neededName := "file operand"
  misused := 1
  run c host :=
    forEach c.operands
      (fun name host =>
        if (c.resolve host name).isOk || c.has 'c' then (true, host)
        else
          c.changeAtOnce "cannot touch " name
            ((host.tree.openFile c.context.cwd ⟨name⟩ true).map (·.2)) host)
      host

/-! ## Copying, moving and linking -/

/-- Where something of a name is put: under another name, or in a directory of that name. -/
def placeFor (c : Call) (host : Host) (source target : Bytes) : Bytes :=
  if c.isDirectory host target && !c.has 'T' then inDirectory target (lastPartOf source) else target

/-- Do something for each operand but the last one, which is where it is put. -/
def puttingEach (what : String) (act : Call → Bytes → Bytes → Host → Bool × Host) (c : Call)
    (host : Host) : WaitStatus × Host :=
  let target := c.operands.getLastD []
  let sources := c.operands.dropLast
  if 1 < sources.length && !c.isDirectory host target then
    let e := if (c.resolve host target).isOk then SystemError.notDirectory else .noEntry
    (verdict false, c.complainAbout what (quoted target) e host)
  else
    forEach sources (fun source host => act c source (placeFor c host source target) host) host

/-- The location that a name is that of, or can be. -/
def locationFor (c : Call) (host : Host) (followLast : Bool) (name : Bytes) :
    Except SystemError Location := do
  match ← host.tree.destination c.context.cwd followLast ⟨name⟩ with
  | .existing loc | .free loc _ => return loc

/-- Copy one file, or a directory with all in it. -/
def copyOne (c : Call) (source target : Bytes) (host : Host) : Bool × Host :=
  match c.resolve host source with
  | .error e => (false, c.complainAbout "cannot stat " (quoted source) e host)
  | .ok (origin, .directory) =>
    if !(c.has 'r' || c.has 'R' || c.has 'a') then
      (false, c.complain
        (Text.Utf8.encode "-r not specified; omitting directory " ++ quoted source) host)
    else
      c.changeAtOnce "cannot create directory " target
        ((locationFor c host true target).map (host.tree.graft origin)) host
  | .ok (origin, .file content executable) =>
    match locationFor c host true target with
    | .error e => (false, c.complainAbout "cannot create regular file " (quoted target) e host)
    | .ok loc =>
      if loc = origin then
        (false, c.complain (quoted source ++ Text.Utf8.encode " and " ++ quoted target ++
          Text.Utf8.encode " are the same file") host)
      else
        c.changeAtOnce "cannot create regular file " target
          ((host.tree.write c.context.cwd ⟨target⟩ content.bytes executable).map fun tree =>
            match content with
            | .tool _ => tree.put loc (.file content executable)
            | _ => tree) host
  | .ok (_, .link _) => (true, host)

def Program.copy : Program where
  flags := "rRafpT"
  valued := ""
  names := [("recursive", 'r'), ("force", 'f')]
  needed := 2
  neededName := "file operand"
  misused := 1
  run := puttingEach "target " copyOne

/-- Put one file, or a directory with all in it, under another name. -/
def moveOne (c : Call) (source target : Bytes) (host : Host) : Bool × Host :=
  match host.tree.destination c.context.cwd false ⟨source⟩ with
  | .error e => (false, c.complainAbout "cannot stat " (quoted source) e host)
  | .ok (.free ..) => (false, c.complainAbout "cannot stat " (quoted source) .noEntry host)
  | .ok (.existing origin) =>
    let both := quoted source ++ Text.Utf8.encode " to " ++ quoted target
    match locationFor c host false target with
    | .error e => (false, c.complainAbout "cannot move " both e host)
    | .ok loc =>
      if loc = origin then
        (false, c.complain (quoted source ++ Text.Utf8.encode " and " ++ quoted target ++
          Text.Utf8.encode " are the same file") host)
      else if origin.isPrefixOf loc then
        (false, c.complain (Text.Utf8.encode "cannot move " ++ quoted source ++
          Text.Utf8.encode " to a subdirectory of itself, " ++ quoted target) host)
      else
        (true,
          { (host.release origin).release loc with
            tree := (host.tree.graft origin loc).prune origin })

def Program.move : Program where
  flags := "fT"
  valued := ""
  names := [("force", 'f')]
  needed := 2
  neededName := "file operand"
  misused := 1
  run := puttingEach "target " moveOne

/-- Make one link. One that holds no name is a copy here, since a file has one location only. -/
def linkOne (c : Call) (source target : Bytes) (host : Host) : Bool × Host :=
  let cleared := if c.has 'f' then
      match host.tree.remove c.context.cwd ⟨target⟩ with
      | .ok tree => { host with tree }
      | .error _ => host
    else host
  if c.has 's' then
    c.changeAtOnce "failed to create symbolic link " target
      (cleared.tree.makeLink c.context.cwd ⟨target⟩ ⟨source⟩) cleared
  else
    match c.resolve host source with
    | .error e => (false, c.complainAbout "failed to access " (quoted source) e host)
    | .ok (_, .directory) =>
      (false, c.complain (source ++ Text.Utf8.encode ": hard link not allowed for directory") host)
    | .ok (_, entry) =>
      match cleared.tree.destination c.context.cwd false ⟨target⟩ with
      | .ok (.free loc _) => (true, { cleared with tree := cleared.tree.put loc entry })
      | .ok (.existing _) =>
        (false,
          c.complainAbout "failed to create hard link " (quoted target) .alreadyExists cleared)
      | .error e => (false, c.complainAbout "failed to create hard link " (quoted target) e cleared)

/-- Make links. A single operand is linked to under its own last part. -/
def Program.link : Program where
  flags := "sfnT"
  valued := ""
  names := [("symbolic", 's'), ("force", 'f')]
  needed := 1
  neededName := "file operand"
  misused := 1
  run c host :=
    match c.operands with
    | [source] => forEach [source] (fun source => linkOne c source (lastPartOf source)) host
    | _ => puttingEach "target " linkOne c host

/-! ## Modes -/

/-- Whether a file can be executed once a mode has been set, given in octal digits or in letters;
nothing, if it is no mode. Of a mode in letters only what it says about everybody counts. -/
def modeAfter? (mode : Bytes) (before : Bool) : Option Bool :=
  let cs := mode.map fun b => Char.ofNat b.toNat
  if !cs.isEmpty && cs.all fun c => '0' ≤ c && c ≤ '7' then
    some (cs.reverse.take 3 |>.any fun c => c.toNat % 2 = 1)
  else
    let who := cs.takeWhile fun c => ['u', 'g', 'o', 'a'].contains c
    let everybody := who.isEmpty || who.contains 'a' || ['u', 'g', 'o'].all who.contains
    match cs.drop who.length with
    | sign :: what =>
      if !what.all fun c => ['r', 'w', 'x', 'X', 's', 't'].contains c then none
      else
        let executes := what.contains 'x'
        match sign with
        | '+' => some (before || executes)
        | '-' => some (before && !(executes && everybody))
        | '=' => some (executes || (before && !everybody))
        | _ => none
    | [] => none

/-- Set the mode of one file, and of all below it if that is wanted. -/
def setModeOf (c : Call) (mode name : Bytes) (host : Host) : Bool × Host :=
  match c.resolve host name with
  | .error e => (false, c.complainAbout "cannot access " (quoted name) e host)
  | .ok (loc, _) =>
    let chosen := host.tree.entries.filter fun x =>
      x.1 = loc || (c.has 'R' && loc.isPrefixOf x.1)
    let tree := chosen.foldl
      (fun tree x => match x.2 with
        | .file _ before => tree.setExecutable x.1 ((modeAfter? mode before).getD before)
        | _ => tree) host.tree
    (true, { host with tree })

/-- Set the modes of files. A mode can start with a minus sign. -/
def Program.setMode : Program where
  flags := "Rfrwx"
  valued := ""
  names := [("recursive", 'R')]
  needed := 1
  neededName := "operand"
  misused := 1
  run c host :=
    let letters := (c.options.map (·.1)).filter fun l => l = 'r' || l = 'w' || l = 'x'
    let (mode, files) := if letters.isEmpty then (c.operands.headD [], c.operands.tail)
      else (0x2D :: letters.map fun l => UInt8.ofNat l.toNat, c.operands)
    if (modeAfter? mode false).isNone then
      (verdict false, c.explain (Text.Utf8.encode "invalid mode: " ++ quoted mode) host)
    else if files.isEmpty then
      (verdict false,
        c.explain (Text.Utf8.encode "missing operand after " ++ quoted mode) host)
    else forEach files (setModeOf c mode) host

/-! ## Listing -/

/-- Whether a byte string comes before another one, or is the same. -/
def precedes : Bytes → Bytes → Bool
  | [], _ => true
  | _ :: _, [] => false
  | a :: as, b :: bs => if a = b then precedes as bs else a < b

def listedNames (c : Call) (host : Host) (dir : Location) : List Bytes :=
  let own := if c.has 'a' then [Path.dot, Path.dotDot] else []
  let all := own ++ host.tree.names dir
  let shown := if c.has 'a' || c.has 'A' then all else all.filter (·.head? ≠ Path.dot.head?)
  let sorted := shown.mergeSort precedes
  if c.has 'r' then sorted.reverse else sorted

/-- Names, one in each line. -/
def nameLines (names : List Bytes) : Bytes :=
  names.flatMap (· ++ [0x0A])

/-- List directories: first what is no directory, and then the contents of those that are, with
their names if there is anything else. -/
def Program.list : Program where
  flags := "1aArdF"
  valued := ""
  names := [("all", 'a'), ("almost-all", 'A')]
  needed := 0
  neededName := "operand"
  misused := 2
  run c host :=
    let operands := if c.operands.isEmpty then [Path.dot] else c.operands.mergeSort precedes
    let found := operands.map fun name => (name, c.resolve host name)
    let (ok, host) := found.foldl
      (fun (ok, host) (name, result) => match result with
        | .error e => (false, c.complainAbout "cannot access " (quoted name) e host)
        | .ok _ => (ok, host)) (true, host)
    let files := found.filterMap fun (name, result) => match result with
      | .ok (_, .directory) => if c.has 'd' then some name else none
      | .ok _ => some name
      | .error _ => none
    let directories := found.filterMap fun (name, result) => match result with
      | .ok (loc, .directory) => if c.has 'd' then none else some (name, loc)
      | _ => none
    let blocks := directories.map fun (name, loc) =>
      let lines := nameLines (listedNames c host loc)
      if operands.length = 1 then lines else name ++ [0x3A, 0x0A] ++ lines
    let shown := (if files.isEmpty then [] else [nameLines files]) ++ blocks
    (.exited (if ok then 0 else 2), c.write (List.intercalate [0x0A] shown) host)

end GoTasks.Tool
