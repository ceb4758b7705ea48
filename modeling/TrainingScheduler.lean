import TrainingScheduler.Scheduler.Capacity
import TrainingScheduler.Scheduler.Callbacks
import TrainingScheduler.Scheduler.Stops
import TrainingScheduler.Scheduler.Refresh
import TrainingScheduler.Scheduler.Builds
import TrainingScheduler.Workspaces.Agreement
import TrainingScheduler.Worker.Cleanup
import TrainingScheduler.System.Reservations
import TrainingScheduler.System.Races
import TrainingScheduler.System.Decisions
import TrainingScheduler.Management.Tickets
import TrainingScheduler.Browser.Terminal
import TrainingScheduler.Browser.Sha256
import TrainingScheduler.Builder.Archive
import TrainingScheduler.Builder.Snapshot
import TrainingScheduler.Builder.Packages
import TrainingScheduler.Access.Capacity
import TrainingScheduler.Access.Relay
import TrainingScheduler.Access.Proxy
import TrainingScheduler.Worker.Authority
import TrainingScheduler.Worker.Resumes
import TrainingScheduler.Scheduler.Preview
import TrainingScheduler.Scheduler.SshReports
import TrainingScheduler.Workspaces.Receipts
import TrainingScheduler.Management.NetworkPolicy
import TrainingScheduler.Access.Parser
import TrainingScheduler.Scheduler.Downloads
import TrainingScheduler.Scheduler.Listings
import TrainingScheduler.Scheduler.LogStreams
import TrainingScheduler.Worker.TrainingLog
import TrainingScheduler.Worker.Files
import TrainingScheduler.Worker.Ssh
import TrainingScheduler.Gateway.Sessions
