import TaskEngine.Config.Basic
import TaskEngine.Pool.BoundedQueue
import TaskEngine.Pool.Tally
import TaskEngine.Pool.Stage
import TaskEngine.Task.Ending

/-! The state that a pool's lock guards, and what is done to it in one hold of the lock.
Notifications travel outside the lock; a woken worker still counts as idle until it has the
lock again, so that fewer workers may be free than a submission counts. -/

namespace TaskEngine

inductive WorkerPhase (τ : Type)
  | starting
  /-- Waits for a notification, or with `timed` also for its idle timeout. -/
  | waiting (timed : Bool)
  | woken (timedOut : Bool)
  | executing (task : τ)
  deriving DecidableEq

structure Worker (τ : Type) where
  id : Nat
  phase : WorkerPhase τ

def Worker.notified {τ : Type} (w : Worker τ) : Worker τ :=
  match w.phase with
  | .waiting _ => { w with phase := .woken false }
  | _ => w

structure Pool (τ : Type) where
  core : Nat
  max : Nat
  queue : BoundedQueue τ
  active : Nat := 0
  idle : Nat := 0
  stopping : Bool := false
  stage : PoolStage := .running
  nextWorker : Nat := 0
  tally : Tally := {}
  /-- The live workers; those that wait are in the order in which they began to. -/
  crew : List (Worker τ) := []

/-- What a worker does when it gives the lock back. -/
inductive Turn (τ : Type)
  | run (task : τ)
  | wait
  /-- It leaves, after a timeout or because the pool stops; `last` if the pool has stopped
  with it. -/
  | leave (retired last : Bool)
  | die (last : Bool)

namespace Pool

variable {τ : Type}

def hire (p : Pool τ) : Pool τ :=
  { p with
    nextWorker := p.nextWorker + 1
    active := p.active + 1
    tally := { p.tally with spawnedWorkers := p.tally.spawnedWorkers + 1 }
    crew := p.crew ++ [⟨p.nextWorker, .starting⟩] }

def hireMany : Nat → Pool τ → Pool τ
  | 0, p => p
  | n + 1, p => hireMany n p.hire

def start (c : PoolConfig) : Pool τ :=
  hireMany c.coreThreads.toNat
    { core := c.coreThreads.toNat, max := c.maxThreads.toNat,
      queue := .empty c.queueCapacity.toNat }

def countRejected (p : Pool τ) : Pool τ :=
  { p with tally := { p.tally with rejected := p.tally.rejected + 1 } }

def countSubmitted (p : Pool τ) : Pool τ :=
  { p with tally := { p.tally with submitted := p.tally.submitted + 1 } }

def wantsWorker (p : Pool τ) : Bool := decide (p.idle < p.queue.size ∧ p.active < p.max)

def grow (p : Pool τ) : Pool τ := if p.wantsWorker then p.hire else p

/-- Queues a task, or refuses it; a refusal changes nothing but its counter. Where a worker is
wanted and no thread can be created, the program hangs in this call, on its own lock. With `spawns`
false the model goes on where the program stops: the task is queued and the pool does not grow. -/
def submitWith (spawns : Bool) (p : Pool τ) (task : τ) : Pool τ × Except Refusal Unit :=
  if p.stopping then (p.countRejected, .error .stopped)
  else match p.queue.push task with
    | .error _ => (p.countRejected, .error (.queueFull p.queue.capacity))
    | .ok queue =>
      let p := { p with queue }.countSubmitted
      (if spawns then p.grow else p, .ok ())

def submit (p : Pool τ) (task : τ) : Pool τ × Except Refusal Unit := p.submitWith true task

def wakeFirst : List (Worker τ) → List (Worker τ)
  | [] => []
  | ⟨id, .waiting _⟩ :: rest => ⟨id, .woken false⟩ :: rest
  | w :: rest => w :: wakeFirst rest

def notifyOne (p : Pool τ) : Pool τ := { p with crew := wakeFirst p.crew }

def notifyAll (p : Pool τ) : Pool τ := { p with crew := p.crew.map Worker.notified }

def phase? (p : Pool τ) (id : Nat) : Option (WorkerPhase τ) :=
  (p.crew.find? fun w => w.id == id).map Worker.phase

def setPhase (p : Pool τ) (id : Nat) (phase : WorkerPhase τ) : Pool τ :=
  { p with crew := p.crew.map fun w => if w.id = id then ⟨id, phase⟩ else w }

def timeOut (p : Pool τ) (id : Nat) : Pool τ := p.setPhase id (.woken true)

/-- The threads to join once a submission has turned `p` into `after`: a new worker's thread is
one more, and threads that have ended by then are forgotten. -/
def threadsAfter (p : Pool τ) (threads : List Nat) (after : Pool τ) : List Nat :=
  if p.nextWorker < after.nextWorker then
    (threads.filter fun t => (p.phase? t).isSome) ++ [p.nextWorker]
  else threads

def withoutWorker (p : Pool τ) (id : Nat) : Pool τ :=
  { p with crew := p.crew.filter fun w => w.id != id }

def isLast (p : Pool τ) : Bool :=
  decide (p.stopping = true ∧ p.active - 1 = 0 ∧ p.stage ≠ .stopped)

/-- A worker is gone; true when it was the last of a stopping pool, which then has stopped. -/
def dismiss (p : Pool τ) (id : Nat) : Pool τ × Bool :=
  ({ p.withoutWorker id with
      active := p.active - 1
      stage := if p.isLast then .stopped else p.stage }, p.isLast)

def beginWait (p : Pool τ) (id : Nat) : Pool τ :=
  { p with
    idle := p.idle + 1
    crew := (p.withoutWorker id).crew ++ [⟨id, .waiting (decide (p.core < p.active))⟩] }

/-- The worker takes the oldest task; without one it leaves a stopping pool, or waits. -/
def dispatch (p : Pool τ) (id : Nat) : Pool τ × Turn τ :=
  match p.queue.pop with
  | some (task, queue) => ({ p with queue }.setPhase id (.executing task), .run task)
  | none =>
    if p.stopping then
      let (p, last) := p.dismiss id
      (p, .leave false last)
    else (p.beginWait id, .wait)

def mayRetire (p : Pool τ) : Bool :=
  p.queue.isEmpty && !p.stopping && decide (p.core < p.active)

def countRetired (p : Pool τ) : Pool τ :=
  { p with tally := { p.tally with retiredWorkers := p.tally.retiredWorkers + 1 } }

def resume (p : Pool τ) (id : Nat) (timedOut : Bool) : Pool τ × Turn τ :=
  let p := { p with idle := p.idle - 1 }
  if timedOut && p.mayRetire then
    let (p, last) := p.countRetired.dismiss id
    (p, .leave true last)
  else p.dispatch id

def turn (p : Pool τ) (w : Worker τ) : Option (Pool τ × Turn τ) :=
  match w.phase with
  | .starting => some (p.dispatch w.id)
  | .woken timedOut => some (p.resume w.id timedOut)
  | .waiting _ | .executing _ => none

def record (p : Pool τ) : Conclusion → Pool τ
  | .completed => { p with tally := { p.tally with completed := p.tally.completed + 1 } }
  | .panicked _ => { p with tally := { p.tally with panicked := p.tally.panicked + 1 } }
  | .unwound => p

/-- A worker has executed its task and gets the lock, to look for more or to die. -/
def finish (p : Pool τ) (id : Nat) (conclusion : Conclusion) : Pool τ × Turn τ :=
  let p := p.record conclusion
  match conclusion with
  | .unwound =>
    let (p, last) := p.dismiss id
    (p, .die last)
  | _ => p.dispatch id

/-- Stops accepting tasks; none when the pool has stopped already. Also gives the number of
queued tasks when this call is the first to stop the pool. -/
def beginDrain (p : Pool τ) : Option (Pool τ × Option Nat) :=
  if p.stage = .stopped then none
  else
    some ({ p with stopping := true, stage := .draining },
      if p.stopping then none else some p.queue.size)

def takeQueued (p : Pool τ) : Pool τ × List τ :=
  let (tasks, queue) := p.queue.drain
  ({ p with
      stopping := true
      stage := if p.stage = .running then .draining else p.stage
      queue }, tasks)

def countDiscarded (p : Pool τ) (n : Nat) : Pool τ :=
  { p with tally := { p.tally with discarded := p.tally.discarded + n } }

/-- A caller has seen that no worker is left; true when it is the first to note the stop. -/
def confirmStopped (p : Pool τ) : Pool τ × Bool :=
  if p.stage = .stopped then (p, false) else ({ p with stage := .stopped }, true)

def isAccepting (p : Pool τ) : Bool := !p.stopping

end Pool
end TaskEngine
