import TaskEngine.Config.Format
import TaskEngine.Log.Event
import TaskEngine.Task.Ending

/-! A scenario is a list of steps that one caller takes against named worker pools, a
delayed scheduler and a periodic actuator. The tasks it hands over are small programs of
their own, which may call the same operations from the thread they run on. -/

namespace TaskEngine

inductive Delay
  | millis (n : Int)
  | span (d : Duration)
  deriving DecidableEq

/-- The operations that a caller and a task have in common; `β` is the type of task bodies. -/
inductive Call (β : Type)
  | submit (pool : String) (handle : Option String) (body : β)
  | join (handle : String)
  | status (pool : String)
  | config (pool : String)
  | shutdown (pool : String)
  | shutdownNow (pool : String)
  | schedule (delay : Delay) (body : β)
  | isPending (id : Nat)
  | cancel (id : Nat)
  | pendingCount
  | result (id : Nat)
  | schedulerShutdown
  | periodicStart
  | periodicStop
  | isRunning
  | interval

inductive Action
  | gate (name : String)
  | note (value : Json)
  | threadName
  | finish (product : Product)
  | panic (payload : PanicPayload)
  | call (c : Call (List Action))

abbrev Body := List Action

mutual

/-- An action weighs one, and its task's weight too if it hands one over. -/
def Action.weight : Action → Nat
  | .call c => 1 + Call.weight c
  | _ => 1

def Call.weight : Call (List Action) → Nat
  | .submit _ _ body => 1 + Body.weight body
  | .schedule _ body => 1 + Body.weight body
  | _ => 0

def Body.weight : List Action → Nat
  | [] => 1
  | action :: rest => Action.weight action + Body.weight rest

end

inductive ClockKind
  | virtual | real
  deriving DecidableEq

inductive Step
  | call (c : Call Body)
  | panic (message : String)
  /-- A call by a thread of its own, the answer of which can be collected later. -/
  | background (c : Call Body)
  | report (target message : String) (level : LogLevel)
  | createPool (name : String) (config : Except DecodeError PoolConfig)
  | submitMany (pool : String) (count : Nat) (label : String)
  | stress (pool : String) (threads each : Nat)
  | release (gate : String)
  | tryJoin (handle : String)
  | pollHandle (handle : String)
  | joinInAsync (handle : String)
  | dropHandle (handle : String)
  | collect (call : Nat)
  | dropPool (pool : String)
  | createScheduler (clock : ClockKind)
  | advance (millis : Nat)
  | resultInAsync (id : Nat)
  | startFuture (future : String) (id : Nat)
  | pollFuture (future : String)
  | dropFuture (future : String)
  | fates
  | dropScheduler
  | createActuator (interval : Duration) (ticks : List (Nat × Body))
  | waitTicks (count : Nat)
  | ticks
  | waitGate (gate : String)
  | dropActuator

end TaskEngine
