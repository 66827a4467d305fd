/-! The ways in which the engine refuses or fails. Every error has a one-line message; some
wrap another error, their source, whose own message can be asked for. -/

namespace TaskEngine

inductive ConfigFault
  | noCoreThreads | maxBelowCore | noCapacity
  deriving DecidableEq

def ConfigFault.reason : ConfigFault → String
  | .noCoreThreads => "core_threads must be greater than 0"
  | .maxBelowCore => "max_threads cannot be less than core_threads"
  | .noCapacity => "queue_capacity must be greater than 0"

structure InvalidConfig where
  reason : String
  deriving DecidableEq

def InvalidConfig.message (e : InvalidConfig) : String := "invalid configuration: " ++ e.reason

inductive PoolStartError
  | config (error : InvalidConfig)
  | thread (reason : String)
  deriving DecidableEq

namespace PoolStartError

def message : PoolStartError → String
  | .config error => "invalid pool configuration: " ++ error.message
  | .thread reason => "failed to spawn worker thread: " ++ reason

def source : PoolStartError → Option String
  | .config error => some error.message
  | .thread reason => some reason

end PoolStartError

inductive Refusal
  | queueFull (capacity : Nat)
  | stopped
  deriving DecidableEq

def Refusal.message : Refusal → String
  | .queueFull capacity => "task queue is full (capacity " ++ toString capacity ++ ")"
  | .stopped => "worker pool is shutting down"

inductive TaskFailure
  | panicked (reason : String)
  | discarded
  deriving DecidableEq

def TaskFailure.message : TaskFailure → String
  | .panicked reason => "task panicked: " ++ reason
  | .discarded => "task was discarded before it ran"

/-- Why a delayed scheduler or a periodic actuator did not do as asked. -/
inductive ScheduleError
  | invalidArgument (reason : String)
  | notFound (id : Nat)
  | task (error : TaskFailure)
  | stopped
  | alreadyRunning
  | runtime (reason : String)
  deriving DecidableEq

namespace ScheduleError

/-- A task's own error speaks for itself. -/
def message : ScheduleError → String
  | .invalidArgument reason => "invalid argument: " ++ reason
  | .notFound id => "no result available for task " ++ toString id
  | .task error => error.message
  | .stopped => "scheduler is shut down"
  | .alreadyRunning => "actuator is already running"
  | .runtime reason => "failed to start timer runtime: " ++ reason

def source : ScheduleError → Option String
  | .runtime reason => some reason
  | _ => none

/-- What a read of task `id` answers when the task itself ended with `error`. -/
def ofTask (id : Nat) : TaskFailure → ScheduleError
  | .discarded => .notFound id
  | error => .task error

end ScheduleError
end TaskEngine
