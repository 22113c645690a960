import GoTasks.Host.Shell.Builtin.Variables

/-!
# Setting aliases

The commands that give names a text, show it, and take it away again.
-/

namespace GoTasks.Shell.Builtin

def shownAlias (name text : Raw) : Raw :=
  name ++ '=' :: requoted text

/-- The aliases as they are shown, group by group. -/
def shownAliases (aliases : Aliases) : Raw :=
  (aliases.mergeSort fun a b => Parameters.groupOf a.1 ≤ Parameters.groupOf b.1).flatMap
    fun (name, text) => shownAlias name text ++ ['\n']

/-- Say that there is no alias of a name. -/
def missAlias (s : State) (command : String) (name : Raw) : State :=
  (s.remark (rawText (command ++ ": ") ++ name ++ rawText " not found")).done 1

/-- Give names a text, or show the text that they have. An equals sign that comes first belongs to
the name. -/
def setAliases : Action := fun s _ arguments =>
  if arguments.isEmpty then .ok ((s.write (shownAliases s.aliases)).done 0)
  else
    .ok (arguments.foldl
      (fun s argument =>
        let (rest, value?) := splitArgument argument.tail
        let name := argument.take 1 ++ rest
        match value?, s.aliases.lookup name with
        | some text, _ => { s with aliases := s.aliases.set name text }
        | none, some text => s.write (shownAlias name text ++ ['\n'])
        | none, none => missAlias s "alias" name)
      (s.done 0))

/-- Take the text away from names, or from all of them. -/
def removeAliases : Action := fun s line arguments =>
  withOptions s line "unalias" "a" arguments fun options names =>
    if !options.isEmpty then .ok ({ s with aliases := [] }.done 0)
    else
      .ok (names.foldl
        (fun s name =>
          if (s.aliases.lookup name).isNone then missAlias s "unalias" name
          else { s with aliases := s.aliases.filter (·.1 ≠ name) })
        (s.done 0))

end GoTasks.Shell.Builtin
