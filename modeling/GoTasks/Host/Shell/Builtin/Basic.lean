import GoTasks.Host.Shell.Condition
import GoTasks.Host.Shell.Format
import GoTasks.Host.Shell.Options

/-!
# Built-in commands

The commands that a shell carries out itself. Each takes the state of the shell, the number of
its line and its arguments, and gives the state after it, with its exit code in it. A command
that gives up has complained about it; then some commands end the shell.

Here are those that write, test, or leave something.
-/

namespace GoTasks.Shell.Builtin

/-- The state after a command: one that went through, or one that gave up. -/
abbrev Outcome := Except State State

/-- A command of the shell itself. -/
abbrev Action := State → Nat → List Raw → Outcome

def giveUp (s : State) (line : Nat) (command : String) (message : Raw) : Outcome :=
  .error ((s.complainAs line command message).done 2)

def numberLimit : Nat := 2147483647

/-- A number that is written in digits, and not too large. -/
def number? (cs : Raw) : Option Nat :=
  if cs.isEmpty || cs.any (!·.isDigit) || numberLimit < numberOf cs then none
  else some (numberOf cs)

/-- Give up since an argument should be a number. -/
def refuseNumber (s : State) (line : Nat) (command : String) (argument : Raw) : Outcome :=
  giveUp s line command (rawText "Illegal number: " ++ argument)

/-- Go on with the options of a command and its other arguments, unless an option is none. -/
def withOptions (s : State) (line : Nat) (command allowed : String) (arguments : List Raw)
    (run : List Char → List Raw → Outcome) : Outcome :=
  match ownOptions allowed arguments with
  | .ok (options, rest) => run options rest
  | .error message => giveUp s line command message

/-- Do nothing, and succeed or fail. -/
def nothing (code : Nat) : Action := fun s _ _ => .ok (s.done code)

def echo : Action := fun s _ arguments =>
  .ok ((s.write (echoed arguments)).done 0)

def printf : Action := fun s line arguments =>
  withOptions s line "printf" "" arguments fun _ arguments =>
    match arguments with
    | [] => giveUp s line "printf" (rawText "usage: printf format [arg ...]")
    | format :: values =>
      let p := Printing.ofFormat format values
      let told := p.complaints.foldl (fun s message => s.complainAs line "printf" message) s
      let written := told.write p.written
      if p.refused then .error (written.done 2)
      else .ok (written.done (if p.complaints.isEmpty then 0 else 1))

def test (command : String) : Action := fun s line arguments =>
  match Condition.holds ⟨s.host.tree, s.cwd⟩ arguments with
  | .ok holds => .ok (s.done (if holds then 0 else 1))
  | .error message => giveUp s line command message

def bracket : Action := fun s line arguments =>
  if arguments.getLast? = some [']'] then test "[" s line arguments.dropLast
  else giveUp s line "[" (rawText "missing ]")

/-- Go on with a number that a command takes, or another one if it is given none. -/
def withNumber (s : State) (line : Nat) (command : String) (arguments : List Raw) (otherwise : Nat)
    (run : Nat → Outcome) : Outcome :=
  match arguments with
  | [] => run otherwise
  | argument :: _ =>
    match number? argument with
    | some n => run n
    | none => refuseNumber s line command argument

/-- Leave the shell, with the exit code of the last command if none is given. -/
def exit : Action := fun s line arguments =>
  withNumber s line "exit" arguments s.parameters.status fun n => .ok ((s.done n).leave n)

/-- Leave the function or the file, with the exit code of the last command if none is given. -/
def returnFrom : Action := fun s line arguments =>
  withNumber s line "return" arguments s.parameters.status fun n =>
    .ok { s.done n with halt? := some .returned }

/-- Break off loops: none if there are none, and at most those that there are. -/
def breakOff (command : String) (halt : Nat → Halt) : Action := fun s line arguments =>
  withNumber s line command arguments 1 fun n =>
    if n = 0 then refuseNumber s line command (arguments.headD [])
    else
      let levels := min n s.loops
      .ok { s.done 0 with halt? := if levels = 0 then none else some (halt levels) }

def shift : Action := fun s line arguments =>
  withNumber s line "shift" arguments 1 fun n =>
    if s.parameters.positional.length < n then
      giveUp s line "shift" (rawText "can't shift that many")
    else
      let s := { s with optionOffset? := none }
      .ok ((s.setPositional (s.parameters.positional.drop n)).done 0)

/-- Show how much time has passed for the shell and for its programs: none. -/
def times : Action := fun s _ _ =>
  let passed := rawText "0m0.000000s 0m0.000000s\n"
  .ok ((s.write (passed ++ passed)).done 0)

/-- Show the limits of the shell, of which there are none. -/
def limits : Action := fun s _ arguments =>
  if arguments.isEmpty then .ok ((s.write (rawText "unlimited\n")).done 0) else .ok (s.done 0)

end GoTasks.Shell.Builtin
