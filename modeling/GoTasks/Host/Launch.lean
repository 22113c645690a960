import GoTasks.Completion
import GoTasks.Host.Basic
import GoTasks.Host.Image

/-!
# Launching

What a program does that starts others: it gives an image the context of a new process, and goes
on with the host as that process has left it. No program runs while another one does.
-/

namespace GoTasks

/-- How a program is started, and run to its end. -/
abbrev Launch := Image → ProcessContext → Host → WaitStatus × Host

end GoTasks
