import ReplicaLending.Gate.Safety
import ReplicaLending.Scheduler.Restore
import ReplicaLending.Scheduler.IdleReports
import ReplicaLending.Scheduler.Registration
import ReplicaLending.Scheduler.LeaseForms
import ReplicaLending.Router.Attempts
import ReplicaLending.Router.Drain
import ReplicaLending.Router.History
import ReplicaLending.Checkpoint.Receivers
import ReplicaLending.Checkpoint.Manifests
import ReplicaLending.Checkpoint.Transfers
import ReplicaLending.Queue.ExactlyOnce
import ReplicaLending.Task.Membership
import ReplicaLending.Task.Reporting
import ReplicaLending.Task.Publication
import ReplicaLending.Task.Soundness
import ReplicaLending.Task.Resleeping
import ReplicaLending.Manager.Preparation
import ReplicaLending.Replica.Cleanup
import ReplicaLending.Server.Admission
import ReplicaLending.Client.Continuation
import ReplicaLending.Task.Handover
import ReplicaLending.Task.Replays
import ReplicaLending.Dispatch.Failed
import ReplicaLending.Owners.FalseFailure
import ReplicaLending.Task.Accounts
import ReplicaLending.Task.Stranding
import ReplicaLending.Task.Refinement
import ReplicaLending.Task.Resting
import ReplicaLending.Task.Undisturbed
import ReplicaLending.Task.Settlement
