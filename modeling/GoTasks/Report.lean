import GoTasks.Failure
import GoTasks.Style

/-!
# Reports

What a run tells its reader: the banner before each step, the line after a success, and the
report of a failure. A report names the root of the failure; the steps skipped around it,
the causes below it and the hint follow on lines of their own, each only if there is one.
-/

namespace GoTasks.Report

def stepBanner (styled : Bool) (label command : String) : String :=
  Style.step.paint styled ("[" ++ label ++ "]") ++ " " ++ command ++ "\n"

def success (styled : Bool) (message : String) : String :=
  Style.success.paint styled "success" ++ ": " ++ message ++ "\n"

def errorLine (styled : Bool) (f : Failure) : String :=
  Style.error.paint styled "error" ++ ": " ++ f.root.message ++ "\n"

def skippedLine (styled : Bool) (labels : List String) : String :=
  "  " ++ Style.faint.paint styled "skipped:" ++ " " ++ Failure.listLabels labels ++ "\n"

/-- The line that gives the causes, outermost first. -/
def causesLine (styled : Bool) (causes : List String) : String :=
  "  " ++ Style.faint.paint styled "caused by:" ++ " " ++ ": ".intercalate causes ++ "\n"

def hintLine (styled : Bool) (hint : String) : String :=
  Style.hint.paint styled "hint" ++ ": " ++ hint ++ "\n"

/-- The lines of a failure's report, in order. -/
def lines (styled : Bool) (f : Failure) : List String :=
  [errorLine styled f]
    ++ (f.skipped?.map (skippedLine styled)).toList
    ++ (f.root.causes?.map (causesLine styled)).toList
    ++ (f.hint?.map (hintLine styled)).toList

def failure (styled : Bool) (f : Failure) : String :=
  String.join (lines styled f)

end GoTasks.Report
