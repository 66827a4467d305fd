import TaskEngine.Error
import TaskEngine.Json.Value
import TaskEngine.Log.Level

/-! Everything that pools, schedulers and actuators report about themselves, with the level,
target, message and fields under which it is reported. A foreign event comes from the
program around them. -/

namespace TaskEngine

inductive LoggedPhase
  | idle | executing | retiring | terminated
  deriving DecidableEq

def LoggedPhase.name : LoggedPhase → String
  | .idle => "Idle"
  | .executing => "Executing"
  | .retiring => "Retiring"
  | .terminated => "Terminated"

/-- Who saw that a pool has stopped: its last worker, or a caller who waited for it. -/
inductive StopWitness
  | worker | caller
  deriving DecidableEq

inductive LogEvent
  | poolStarting (core max capacity idleMillis : Nat)
  | refusedStopping
  | refusedFull (capacity : Nat)
  | workerStarted (worker : Nat)
  | workerMoved (worker : Nat) (source target : LoggedPhase)
  | taskPanicked (worker : Nat) (error : TaskFailure)
  | workerRetired (worker : Nat)
  | workerExited (worker : Nat)
  | workerUnwound (worker : Nat)
  | poolStopped (seenBy : StopWitness)
  | drainStarted (queued : Nat)
  | queueDropped (discarded : Nat)
  | shutdownFromWorker
  | workerDied
  | taskScheduled (id delayMillis : Nat)
  | runningCancelled (id : Nat)
  | taskCancelled (id : Nat) (wasPending : Bool)
  | schedulerStopped (cancelled : Nat)
  | firedTooLate (id : Nat)
  | taskFired (id : Nat)
  | delayedPanicked (id : Nat) (error : TaskFailure)
  | outcomePanicked (id : Nat) (error : TaskFailure)
  | outcomeDropped (id : Nat)
  | actuatorStarted (intervalMillis : Nat)
  | stoppedFromTick
  | actuatorDied
  | actuatorStopped
  | tickPanicked (error : TaskFailure)
  | stopRequested
  | foreign (target message : String) (level : LogLevel)
  deriving DecidableEq

inductive LogValue
  | number (n : Nat)
  | bool (b : Bool)
  | text (s : String)
  deriving DecidableEq

namespace LogValue

def toText : LogValue → String
  | .number n => toString n
  | .bool b => if b then "true" else "false"
  | .text s => s

def toJson : LogValue → Json
  | .number n => .ofNat n
  | .bool b => .bool b
  | .text s => .string s

end LogValue

namespace LogEvent

def level : LogEvent → LogLevel
  | .poolStarting .. | .poolStopped _ | .drainStarted _ | .queueDropped _
  | .schedulerStopped _ | .actuatorStarted _ | .actuatorStopped => .info
  | .refusedStopping | .refusedFull _ | .workerStarted _ | .workerRetired _ | .workerExited _
  | .taskScheduled .. | .runningCancelled _ | .taskCancelled .. | .firedTooLate _ | .taskFired _
  | .outcomeDropped _ | .stoppedFromTick | .stopRequested => .debug
  | .workerMoved .. => .trace
  | .taskPanicked .. | .shutdownFromWorker | .delayedPanicked .. | .outcomePanicked ..
  | .tickPanicked _ => .warn
  | .workerUnwound _ | .workerDied | .actuatorDied => .error
  | .foreign _ _ level => level

def poolTarget : String := "taskpool::worker::pool"

def lifecycleTarget : String := "taskpool::worker::lifecycle"

def delayedTarget : String := "taskpool::scheduler::delayed"

def periodicTarget : String := "taskpool::scheduler::periodic"

def target : LogEvent → String
  | .poolStarting .. | .refusedStopping | .refusedFull _ | .workerStarted _ | .workerMoved ..
  | .taskPanicked .. | .workerRetired _ | .workerExited _ | .workerUnwound _
  | .poolStopped .worker => poolTarget
  | .poolStopped .caller | .drainStarted _ | .queueDropped _ | .shutdownFromWorker
  | .workerDied => lifecycleTarget
  | .taskScheduled .. | .runningCancelled _ | .taskCancelled .. | .schedulerStopped _
  | .firedTooLate _ | .taskFired _ | .delayedPanicked .. | .outcomePanicked ..
  | .outcomeDropped _ => delayedTarget
  | .actuatorStarted _ | .stoppedFromTick | .actuatorDied | .actuatorStopped | .tickPanicked _
  | .stopRequested => periodicTarget
  | .foreign target _ _ => target

def message : LogEvent → String
  | .poolStarting .. => "Starting worker pool"
  | .refusedStopping => "Rejecting task: pool is shutting down"
  | .refusedFull _ => "Rejecting task: queue is full"
  | .workerStarted _ => "Worker started"
  | .workerMoved .. => "Worker state change"
  | .taskPanicked .. => "Task panicked, worker continues"
  | .workerRetired _ => "Worker retired after idle timeout"
  | .workerExited _ => "Worker exited on shutdown"
  | .workerUnwound _ => "Worker thread unwound unexpectedly"
  | .poolStopped _ => "Worker pool stopped"
  | .drainStarted _ => "Initiating graceful shutdown"
  | .queueDropped _ => "Immediate shutdown, queued tasks dropped"
  | .shutdownFromWorker => "Shutdown requested from a worker thread, not waiting for workers"
  | .workerDied => "Worker thread panicked outside of a task"
  | .taskScheduled .. => "Scheduled delayed task"
  | .runningCancelled _ => "Cancelled task is already running, outcome will be dropped"
  | .taskCancelled .. => "Cancelled delayed task"
  | .schedulerStopped _ => "Delayed task scheduler shut down"
  | .firedTooLate _ => "Timer fired after cancellation, skipping"
  | .taskFired _ => "Delayed task fired"
  | .delayedPanicked .. => "Delayed task panicked"
  | .outcomePanicked .. => "Delayed task outcome panicked on drop"
  | .outcomeDropped _ => "Task cancelled while running, dropping outcome"
  | .actuatorStarted _ => "Periodic actuator started"
  | .stoppedFromTick => "Periodic actuator stopped from its own task, not joining"
  | .actuatorDied => "Periodic actuator thread panicked"
  | .actuatorStopped => "Periodic actuator stopped"
  | .tickPanicked _ => "Periodic task panicked, schedule continues"
  | .stopRequested => "Periodic actuator: stop requested"
  | .foreign _ message _ => message

def fields : LogEvent → List (String × LogValue)
  | .poolStarting core max capacity idleMillis =>
    [("core_threads", .number core), ("max_threads", .number max),
      ("queue_capacity", .number capacity), ("idle_timeout_ms", .number idleMillis)]
  | .refusedFull capacity => [("capacity", .number capacity)]
  | .workerStarted worker | .workerRetired worker | .workerExited worker
  | .workerUnwound worker => [("worker_id", .number worker)]
  | .workerMoved worker source target =>
    [("worker_id", .number worker), ("from", .text source.name), ("to", .text target.name)]
  | .taskPanicked worker error =>
    [("worker_id", .number worker), ("error", .text error.message)]
  | .drainStarted queued => [("queued", .number queued)]
  | .queueDropped discarded => [("discarded", .number discarded)]
  | .taskScheduled id delayMillis =>
    [("task_id", .number id), ("delay_ms", .number delayMillis)]
  | .runningCancelled id | .firedTooLate id | .taskFired id | .outcomeDropped id =>
    [("task_id", .number id)]
  | .taskCancelled id wasPending => [("task_id", .number id), ("was_pending", .bool wasPending)]
  | .schedulerStopped cancelled => [("cancelled", .number cancelled)]
  | .delayedPanicked id error | .outcomePanicked id error =>
    [("task_id", .number id), ("error", .text error.message)]
  | .actuatorStarted intervalMillis => [("interval_ms", .number intervalMillis)]
  | .tickPanicked error => [("error", .text error.message)]
  | .refusedStopping | .poolStopped _ | .shutdownFromWorker | .workerDied | .stoppedFromTick
  | .actuatorDied | .actuatorStopped | .stopRequested | .foreign .. => []

end LogEvent

/-- The two calls whose events are marked as belonging to them. -/
inductive LogSpan
  | shutdown | shutdownNow
  deriving DecidableEq

def LogSpan.name : LogSpan → String
  | .shutdown => "shutdown"
  | .shutdownNow => "shutdown_now"

/-- An event, the thread that reported it, and the call it belongs to. -/
structure LogEntry where
  thread : String
  span : Option LogSpan
  event : LogEvent
  deriving DecidableEq

end TaskEngine
