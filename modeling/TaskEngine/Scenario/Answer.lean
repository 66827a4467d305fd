import TaskEngine.Config.DecodeError
import TaskEngine.Duration
import TaskEngine.Pool.Stage
import TaskEngine.Task.Ending

/-! What a step or a task's call is answered with, and what tasks note down. -/

namespace TaskEngine

inductive Missing
  | pool | handle | scheduler | actuator | future | call
  deriving DecidableEq

/-- What became of a delayed task's callable. -/
inductive Fate
  | waiting | running | ran | dropped
  deriving DecidableEq

mutual

inductive Answer
  | done
  | dropped
  | shutDown
  | actuatorStopped
  | missing (thing : Missing)
  | poolBusy
  | actuatorBusy
  | badConfig (error : PoolStartError)
  | badText (error : DecodeError)
  | submitted (result : Except Refusal Unit)
  | submittedMany (accepted : Nat) (last : Option Answer)
  | stressed (accepted executed : Nat)
  | outcome (outcome : Outcome Product)
  | result (result : Except ScheduleError Product)
  | pending
  | status (stage : PoolStage) (accepting : Bool) (active idle queued : Nat)
  | config (text : String) (capacity : Nat)
  | discarded (count : Nat)
  | scheduled (result : Except ScheduleError Nat)
  | flag (b : Bool)
  | count (n : Nat)
  | started (result : Except ScheduleError Unit)
  | created (result : Except ScheduleError Unit)
  | interval (d : Duration)
  | blockedCall (number : Nat)
  | fates (fates : List (Nat × Fate))
  | ticksReached (reached : Bool) (notes : List Note)
  | ticksEnded (count : Nat) (notes : List Note)
  -- none when the message does not matter
  | panicked (message : Option String)

/-- What a task notes: a value, the name of its thread, or the answer to a call. -/
inductive Note
  | value (v : Json)
  | thread (name : String)
  | answer (a : Answer)

end

end TaskEngine
