import GoTasks.Log.Event
import GoTasks.Style

/-!
# Log lines

An event is written as one line: its level, aligned to the right, its message, and each field
as a name and a value. Time and topic are left out.
-/

namespace GoTasks

namespace LogLevel

/-- A level as it is written at the start of a line. -/
def tag (l : LogLevel) : String :=
  let name := l.name.toUpper
  "".pushn ' ' (5 - name.length) ++ name

end LogLevel

namespace LogEvent

/-- The style of an event's tag, by its level. -/
def tagStyle (e : LogEvent) : Style :=
  match e.level with
  | .warn => .warning
  | .debug => .debugging
  | _ => .informational

def fieldText (styled : Bool) (field : String × String) : String :=
  " " ++ Style.field.paint styled field.1 ++ Style.faint.paint styled "=" ++ field.2

def line (styled : Bool) (e : LogEvent) : String :=
  e.tagStyle.paint styled e.level.tag ++ " " ++ e.message ++
    String.join (e.fields.map (fieldText styled)) ++ "\n"

end LogEvent
end GoTasks
