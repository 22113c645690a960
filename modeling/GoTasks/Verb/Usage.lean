import GoTasks.Verb.Basic

/-!
# Usage

The usage lists every verb with its summary. Names are padded to the width of the longest,
so that the summaries line up.
-/

namespace GoTasks.Usage

def nameWidth : Nat :=
  (Verb.all.map (·.name.length)).foldl max 0

def line (v : Verb) : String :=
  "  " ++ v.name ++ "".pushn ' ' (nameWidth - v.name.length) ++ "  " ++ v.summary ++ "\n"

def text : String :=
  "Usage: gomk <command>\n\nCommands:\n" ++ String.join (Verb.all.map line)

end GoTasks.Usage
