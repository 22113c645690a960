import GoTasks.Host.Site
import GoTasks.Main
import GoTasks.Proofs.BinaryLocation
import GoTasks.Proofs.Discovered
import GoTasks.Proofs.Dispatch
import GoTasks.Proofs.ExitCode
import GoTasks.Proofs.InTurn
import GoTasks.Proofs.LinkerFlags
import GoTasks.Rehearsal
import GoTasks.Proofs.FirstArgument
import GoTasks.Proofs.Platform
import GoTasks.Proofs.Ascent
import GoTasks.Proofs.Nearest
import GoTasks.Proofs.PackageArgument
import GoTasks.Proofs.BinaryName
import GoTasks.Proofs.Snapshots
import GoTasks.Proofs.CollectedStamp
import GoTasks.Proofs.StampFlow
import GoTasks.Proofs.RootCause
import GoTasks.Proofs.ShownCommand
