import TaskEngine.Config.Environment
import TaskEngine.Config.Format
import TaskEngine.Log.Line
import TaskEngine.Proofs.Pool.Hold
import TaskEngine.Scenario.Play
import TaskEngine.Proofs.Pool.Session
import TaskEngine.Proofs.Pool.Staffing
import TaskEngine.Proofs.Pool.Sound
import TaskEngine.Proofs.Pool.Ledger
import TaskEngine.Proofs.Pool.Delivery
import TaskEngine.Proofs.Pool.Shutdown
import TaskEngine.Proofs.Pool.Stranding
import TaskEngine.Proofs.Pool.Dispatch
import TaskEngine.Proofs.Pool.Discard
import TaskEngine.Proofs.Pool.Stopping
import TaskEngine.Proofs.Pool.Workforce
import TaskEngine.Proofs.Pool.Settling
import TaskEngine.Proofs.Pool.Effect
import TaskEngine.Proofs.Delayed.Pending
import TaskEngine.Proofs.Delayed.Frozen
import TaskEngine.Proofs.Delayed.Atomic
import TaskEngine.Proofs.Periodic.Running
import TaskEngine.Proofs.Refusal
import TaskEngine.Proofs.Periodic.Barrier
import TaskEngine.Proofs.Rest.Schedules
import TaskEngine.Proofs.Config.Format
import TaskEngine.Proofs.Pool.QueueHistory
import TaskEngine.Proofs.Config.Environment
import TaskEngine.Proofs.Task.Handover
import TaskEngine.Proofs.Log.Resolution
