import GoTasks.Host.Shell.State

/-!
# Options

A shell is given options when it is started, and can change them later. Each is a letter after a
minus sign, which sets it, or after a plus sign, which takes it back; some have names, too.
-/

namespace GoTasks.Shell

/-- What has been read of arguments that start with options. -/
structure OptionReading where
  /-- The letters of the options that are set. -/
  options : List Char
  /-- Whether the first of the other arguments is a script. -/
  givesScript : Bool
  /-- The lists of all options that are asked for: as a table, or as commands. -/
  lists : List Bool
  /-- Whether two minus signs end the options. -/
  ended : Bool
  /-- The arguments after the options. -/
  rest : List Raw
  deriving DecidableEq, Repr

namespace OptionReading

def set (r : OptionReading) (letter : Char) (on : Bool) : OptionReading :=
  { r with
    options := optionLetters.filter fun c => if c = letter then on else r.options.contains c }

/-- Set an option by its name, if one follows. -/
def setNamed (r : OptionReading) (on : Bool) : Except Raw OptionReading :=
  match r.rest with
  | [] => .ok { r with lists := r.lists ++ [on] }
  | name :: rest =>
    let r := { r with rest }
    match optionNames.lookup (String.ofList name) with
    | some (some letter) => .ok (r.set letter on)
    | some none => .ok r
    | none => .error (rawText "Illegal option -o " ++ name)

/-- Read the letters of an argument. A shell that is being started takes some of its own. -/
def letters (starting on : Bool) : OptionReading → Raw → Except Raw OptionReading
  | r, [] => .ok r
  | r, c :: cs =>
    if c = 'c' && starting then letters starting on { r with givesScript := true } cs
    else if c = 'l' && starting then letters starting on r cs
    else if c = 'o' then do letters starting on (← r.setNamed on) cs
    else if optionLetters.contains c || c = 'p' then letters starting on (r.set c on) cs
    else .error (rawText "Illegal option -" ++ [c])

/-- Read options, at most so many, from the arguments of a reading. A single minus sign ends them
and stops the shell from telling what it does. -/
def arguments (starting : Bool) : Nat → OptionReading → Except Raw OptionReading
  | 0, r => .ok r
  | limit + 1, r =>
    match r.rest with
    | ['-'] :: rest =>
      let r := { r with rest }
      .ok (if starting then r else (r.set 'x' false).set 'v' false)
    | ['-', '-'] :: rest => .ok { r with rest, ended := true }
    | ('-' :: cs) :: rest => do
      arguments starting limit (← letters starting true { r with rest } cs)
    | ('+' :: cs) :: rest => do
      arguments starting limit (← letters starting false { r with rest } cs)
    | _ => .ok r

end OptionReading

/-- Read the options at the start of arguments, for the options that are set before, or tell what
is wrong with them. -/
def readOptions (starting : Bool) (options : List Char) (arguments : List Raw) :
    Except Raw OptionReading :=
  OptionReading.arguments starting (arguments.length + 1) ⟨options, false, [], false, arguments⟩

/-- A list of all options, and whether they are set: as a table, or as the commands that set
them. -/
def optionList (options : List Char) (asTable : Bool) : Raw :=
  let isSet := fun (letter? : Option Char) => letter?.any options.contains
  if asTable then
    rawText "Current option settings\n" ++ optionNames.flatMap fun (name, letter?) =>
      let gap := List.replicate (16 - name.length) ' '
      rawText name ++ gap ++ rawText (if isSet letter? then "on\n" else "off\n")
  else
    optionNames.flatMap fun (name, letter?) =>
      rawText ((if isSet letter? then "set -o " else "set +o ") ++ name ++ "\n")

/-- Read the letters of a command's own options, of which some are allowed. -/
def ownOptions (allowed : String) : List Raw → Except Raw (List Char × List Raw)
  | [] => .ok ([], [])
  | ['-'] :: rest => .ok ([], ['-'] :: rest)
  | ['-', '-'] :: rest => .ok ([], rest)
  | ('-' :: letters) :: rest => do
    match letters.find? (!allowed.toList.contains ·) with
    | some c => .error (rawText "Illegal option -" ++ [c])
    | none =>
      let (others, left) ← ownOptions allowed rest
      return (letters ++ others, left)
  | rest => .ok ([], rest)

end GoTasks.Shell
