import GoTasks.Host.Shell.Builtin.Aliases
import GoTasks.Host.Shell.Builtin.Directory
import GoTasks.Host.Shell.Builtin.Mask
import GoTasks.Host.Shell.Builtin.Processes

/-!
# The commands of a shell by name

Most commands that a shell carries out itself are actions on its state. Some run other commands,
and are known here by name alone. The shell does not survive it if one of the *special* commands
gives up.
-/

namespace GoTasks.Shell

namespace Builtin

def runnerNames : List String :=
  [".", "bg", "command", "eval", "exec", "fg", "hash", "type", "wait"]

/-- The names of the commands that have nothing to do here. -/
def idleNames : List String :=
  [":", "true", "jobs"]

def isSpecial (name : Raw) : Bool :=
  (specialNames ++ ["local"]).contains (String.ofList name)

/-- The action of a name. -/
def ofName? (name : Raw) : Option Action :=
  match String.ofList name with
  | "false" => some (nothing 1)
  | "echo" => some echo
  | "printf" => some printf
  | "test" => some (test "test")
  | "[" => some bracket
  | "pwd" => some pwd
  | "cd" | "chdir" => some changeDirectory
  | "exit" => some exit
  | "return" => some returnFrom
  | "break" => some (breakOff "break" .loop)
  | "continue" => some (breakOff "continue" .turn)
  | "shift" => some shift
  | "set" => some set
  | "export" => some exportVariables
  | "readonly" => some makeConstant
  | "local" => some makeLocal
  | "unset" => some unset
  | "alias" => some setAliases
  | "unalias" => some removeAliases
  | "read" => some read
  | "getopts" => some nextOption
  | "kill" => some kill
  | "trap" => some trap
  | "umask" => some mask
  | "ulimit" => some limits
  | "times" => some times
  | text => if idleNames.contains text then some (nothing 0) else none

def isName (name : Raw) : Bool :=
  (ofName? name).isSome || runnerNames.contains (String.ofList name)

end Builtin

namespace State

def searchPathName : Raw := "PATH".toList

/-- The search path, as programs are looked for in it. -/
def searchPath? (s : State) : Option Bytes :=
  (s.parameters.lookUp searchPathName).map bytesOf

/-- The file that a program of some name is in, if there is one. A name with a separator is that of
any file that exists. -/
def programFile? (s : State) (name : Raw) : Option Raw :=
  let isProgram := fun (file : Path) =>
    match s.host.tree.resolve s.cwd file with
    | .ok (_, .file _ executable) => executable
    | _ => false
  if name.contains '/' then
    if (s.host.tree.resolve s.cwd ⟨bytesOf name⟩).isOk then some name else none
  else
    ((Image.directories (s.searchPath?.getD [])).map (Image.candidate · (bytesOf name))).find?
      isProgram |>.map fun file => raw file.bytes

/-- What the shell takes a name for, in words or as a command would be written; nothing, if it
takes it for nothing. -/
def describe? (s : State) (inWords : Bool) (name : Raw) : Option Raw :=
  let said := fun (text : String) => some (if inWords then name ++ rawText text else name)
  if keywords.contains (String.ofList name) then said " is a shell keyword"
  else if let some text := s.aliases.lookup name then
    some (if inWords then name ++ rawText " is an alias for " ++ text
      else rawText "alias " ++ Builtin.shownAlias name text)
  else if Builtin.isSpecial name then said " is a special shell builtin"
  else if (s.function? name).isSome then said " is a shell function"
  else if Builtin.isName name then said " is a shell builtin"
  else
    (s.programFile? name).map fun file =>
      if inWords then name ++ rawText " is " ++ file else file

/-- Look for some programs in advance, and complain about those that are missing. -/
def findAll (s : State) (line : Nat) (names : List Raw) : State :=
  names.foldl
    (fun s name =>
      if (s.function? name).isSome || Builtin.isName name || (s.programFile? name).isSome then s
      else (s.complainAs line "hash" (name ++ rawText ": not found")).done 1)
    (s.done 0)

def describeAll (s : State) (inWords : Bool) (names : List Raw) : State :=
  names.foldl
    (fun s name =>
      match s.describe? inWords name with
      | some text => s.write (text ++ ['\n'])
      | none => (if inWords then s.write (name ++ rawText ": not found\n") else s).done 127)
    (s.done 0)

end State
end GoTasks.Shell
