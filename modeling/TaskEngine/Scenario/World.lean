import TaskEngine.Delayed.Agenda
import TaskEngine.Log.Event
import TaskEngine.Periodic.Actuator
import TaskEngine.Pool.Basic
import TaskEngine.Scenario.Action
import TaskEngine.Scenario.Answer

/-! Everything that lives while a scenario is played. Of the schedulers and of the actuators
only the one created last is in use; a dropped one is kept for the threads it has. A thread
that runs a task or a call is a strand: the actions it still has to take, and what it is
blocked on. -/

namespace TaskEngine

structure PoolTask where
  body : Body
  channel : Nat

/-- Whose thread a strand is. -/
inductive Place
  | worker (pool worker : Nat)
  | callable (scheduler id : Nat)
  | tick (actuator loop : Nat)
  | caller (number : Nat)
  | main
  deriving DecidableEq

def Place.isWorkerOf (key : Nat) : Place → Bool
  | .worker own _ => own == key
  | _ => false

/-- What a strand is blocked on. -/
inductive Hold
  | gate (name : String)
  | outcome (channel : Nat)
  | result (id channel : Nat)
  /-- The end of a pool's workers, those in `joined` seen to end one by one. -/
  | workers (span : LogSpan) (pool : Nat) (joined : List Nat) (answer : Answer)
  | tickLoop (actuator loop : Nat)

structure Strand where
  place : Place
  todo : Body
  hold : Option Hold := none

structure PoolEntry where
  key : Nat
  name : String
  config : PoolConfig
  pool : Pool PoolTask
  threads : List Nat
  unwound : List Nat := []

def PoolEntry.afterSubmit (entry : PoolEntry) (pool : Pool PoolTask) : PoolEntry :=
  { entry with pool, threads := entry.pool.threadsAfter entry.threads pool }

/-- A delayed task whose time has not come. It is due when the scheduler's clock shows so many
milliseconds; `due` is none when the time never comes. -/
structure Timer where
  id : Nat
  due : Option Nat
  body : Body
  channel : Nat

def Timer.isDue (t : Timer) (now : Nat) : Bool := t.due.any fun due => due ≤ now

structure Scheduler where
  key : Nat
  clock : ClockKind
  now : Nat := 0
  agenda : Agenda Nat := {}
  timers : List Timer := []
  running : List (Nat × Nat) := []
  fates : List (Nat × Fate) := []
  dropped : Bool := false

def Scheduler.setFate (s : Scheduler) (id : Nat) (fate : Fate) : Scheduler :=
  { s with fates := s.fates.map fun e => if e.1 = id then (id, fate) else e }

/-- A future of a result; it takes the result at its first poll. -/
structure ResultFuture where
  id : Nat
  claimed : Option Nat := none

structure ActuatorEntry where
  key : Nat
  actuator : Actuator
  bodies : List (Nat × Body)
  begun : Nat := 0
  ended : Nat := 0
  dropped : Bool := false

structure World where
  /-- Do fragile values still panic when dropped? -/
  armed : Bool := true
  gatesOpen : Bool := false
  gates : List String := []
  channels : Array (Channel Product) := #[]
  handles : List (String × Nat) := []
  pools : List PoolEntry := []
  nextPool : Nat := 0
  schedulers : List Scheduler := []
  futures : List (String × ResultFuture) := []
  actuators : List ActuatorEntry := []
  tickNotes : List Note := []
  /-- The real time that has been waited out, in nanoseconds. -/
  realNow : Nat := 0
  strands : List Strand := []
  /-- The background calls that were not collected, with their answers once they have one. -/
  calls : List (Nat × Option Answer) := []
  nextCall : Nat := 0
  reply : Option Answer := none
  notes : List (Nat × Note) := []
  log : List LogEntry := []

namespace World

def pool? (w : World) (name : String) : Option PoolEntry := w.pools.find? fun e => e.name == name

def poolByKey? (w : World) (key : Nat) : Option PoolEntry := w.pools.find? fun e => e.key == key

def setPool (w : World) (entry : PoolEntry) : World :=
  { w with pools := w.pools.map fun e => if e.key = entry.key then entry else e }

def latestScheduler? (w : World) : Option Scheduler := w.schedulers.getLast?

def scheduler? (w : World) : Option Scheduler := w.latestScheduler?.filter fun s => !s.dropped

def schedulerByKey? (w : World) (key : Nat) : Option Scheduler :=
  w.schedulers.find? fun s => s.key == key

def setScheduler (w : World) (scheduler : Scheduler) : World :=
  { w with schedulers := w.schedulers.map fun s => if s.key = scheduler.key then scheduler else s }

def latestActuator? (w : World) : Option ActuatorEntry := w.actuators.getLast?

def actuator? (w : World) : Option ActuatorEntry := w.latestActuator?.filter fun e => !e.dropped

def actuatorByKey? (w : World) (key : Nat) : Option ActuatorEntry :=
  w.actuators.find? fun e => e.key == key

def setActuator (w : World) (entry : ActuatorEntry) : World :=
  { w with actuators := w.actuators.map fun e => if e.key = entry.key then entry else e }

def channel (w : World) (c : Nat) : Channel Product := (w.channels[c]?).getD .closed

def setChannel (w : World) (c : Nat) (channel : Channel Product) : World :=
  { w with channels := w.channels.setIfInBounds c channel }

def openChannel (w : World) : Nat × World :=
  (w.channels.size, { w with channels := w.channels.push .empty })

def dropProducer (w : World) (c : Nat) : World := w.setChannel c (w.channel c).dropProducer

def dropReader (w : World) (c : Nat) : Option String × World :=
  let (channel, undelivered) := (w.channel c).dropReader
  (undelivered.bind (dropPanic w.armed), w.setChannel c channel)

def withoutName {α : Type} (name : String) (entries : List (String × α)) : List (String × α) :=
  entries.filter fun e => e.1 != name

def isGateOpen (w : World) (name : String) : Bool := w.gatesOpen || w.gates.contains name

def workerName (entry : PoolEntry) (worker : Nat) : String :=
  entry.config.threadName ++ "-" ++ toString worker

def threadName (w : World) : Place → String
  | .worker key worker =>
    match w.poolByKey? key with
    | some entry => workerName entry worker
    | none => ""
  | .callable .. => "taskpool-timer"
  | .tick .. => "taskpool-periodic"
  | .caller number => "call-" ++ toString number
  | .main => "main"

def emitIn (w : World) (span : Option LogSpan) (place : Place) (event : LogEvent) : World :=
  { w with log := ⟨w.threadName place, span, event⟩ :: w.log }

def emit (w : World) (place : Place) (event : LogEvent) : World := w.emitIn none place event

def setStrand (w : World) (place : Place) (f : Strand → Strand) : World :=
  { w with strands := w.strands.map fun s => if s.place = place then f s else s }

def dropStrand (w : World) (place : Place) : World :=
  { w with strands := w.strands.filter fun s => s.place != place }

def addStrand (w : World) (place : Place) (todo : Body) : World :=
  { w with strands := w.strands ++ [{ place, todo }] }

/-- Notes of ticks are kept apart; the others carry the id of their delayed task, or zero. -/
def addNote (w : World) (place : Place) (note : Note) : World :=
  match place with
  | .tick .. => { w with tickNotes := w.tickNotes ++ [note] }
  | .callable _ id => { w with notes := w.notes ++ [(id, note)] }
  | _ => { w with notes := w.notes ++ [(0, note)] }

/-- Where the answer to a call goes: a task notes it, a caller has been waiting for it. -/
def deliver (w : World) (place : Place) (answer : Answer) : World :=
  match place with
  | .caller number =>
    { w with calls := w.calls.map fun c => if c.1 = number then (number, some answer) else c }
  | .main => { w with reply := some answer }
  | _ => w.addNote place (.answer answer)

end World
end TaskEngine
