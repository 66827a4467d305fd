import Mathlib.Logic.Function.Basic
import TaskEngine.Proofs.Pool.Hold
import TaskEngine.Scenario.World

/-! A session is the life of one pool: its state, what goes on outside its lock, and what
has happened so far. It goes on by deeds, in any order. A worker may also wake up by itself,
or because its timeout has passed. Dropping a task that was never executed is taken not to
panic. -/

namespace TaskEngine

/-- How far a call that shuts the pool down has come: it drops the tasks that it took out of the
queue and counts them at the end, wakes all workers that wait, sees whether it has to wait itself,
and waits for the workers, with some threads to join. -/
inductive CallStage
  | dropping
  | alerting
  | deciding
  | waiting (joined : List Nat)
  | returned
  deriving DecidableEq

structure ShutdownCall where
  -- the worker of the pool on whose thread the call is made, if on any
  origin : Option Nat
  -- are the queued tasks left to the workers?
  graceful : Bool
  stage : CallStage
  dropped : List PoolTask := []
  undropped : List PoolTask := []

def ShutdownCall.drained (call : ShutdownCall) : List PoolTask := call.dropped ++ call.undropped

structure Execution where
  task : PoolTask
  ending : Ending Product
  conclusion : Conclusion

def Execution.completed (e : Execution) : List PoolTask :=
  match e.conclusion with
  | .completed => [e.task]
  | _ => []

def Execution.panicked (e : Execution) : List PoolTask :=
  match e.conclusion with
  | .panicked _ => [e.task]
  | _ => []

def Execution.lost (e : Execution) : List PoolTask :=
  match e.conclusion with
  | .unwound => [e.task]
  | _ => []

theorem Execution.lost_eq_nil {e : Execution} (h : e.conclusion ≠ .unwound) : e.lost = [] := by
  unfold lost
  split
  · next hu => exact absurd hu h
  · rfl

def Turn.begun {τ : Type} : Turn τ → List τ
  | .run task => [task]
  | _ => []

/-- A pool, what goes on outside its lock, and what has happened so far. The `notices` are accepted
submissions that are about to notify a worker, the `threads` those that the next caller to wait has
to join, and `told` what reads of the handles have answered. Of the `submits`, refused ones
included, each opened the channel of its number. -/
structure Session where
  pool : Pool PoolTask
  channels : Nat → Channel Product := fun _ => .empty
  told : Nat → Option (Outcome Product) := fun _ => none
  notices : Nat := 0
  threads : List Nat
  calls : List ShutdownCall := []
  submits : Nat := 0
  failedSpawns : Nat := 0
  accepted : List PoolTask := []
  dispatched : List PoolTask := []
  executions : List Execution := []
  completed : List PoolTask := []
  panicked : List PoolTask := []
  lost : List PoolTask := []

namespace Session

def start (c : PoolConfig) : Session :=
  { pool := .start c, threads := (Pool.start c : Pool PoolTask).crew.map Worker.id }

@[simp] theorem start_pool (c : PoolConfig) : (start c).pool = .start c := rfl

/-- Is the task executed, and not yet at its end? -/
def IsRunning (s : Session) (worker : Nat) (task : PoolTask) : Prop :=
  ⟨worker, .executing task⟩ ∈ s.pool.crew ∧ ∀ e ∈ s.executions, e.task.channel ≠ task.channel

/-- Can a call be made on the thread? On a worker's it is made by the task that runs there. -/
def CanCall (s : Session) : Option Nat → Prop
  | none => True
  | some worker => ∃ task, s.IsRunning worker task

/-- Is the handle still there to be read? -/
def IsHeld (s : Session) (channel : Nat) : Prop :=
  (∃ task ∈ s.accepted, task.channel = channel) ∧ s.told channel = none ∧
    s.channels channel ≠ .abandoned

def drained (s : Session) : List PoolTask := s.calls.flatMap ShutdownCall.drained

/-- The notifications that are under way, and the workers that have yet to get the lock: new
ones, and those that have stopped waiting. -/
def inFlight (s : Session) : Nat := s.notices + s.pool.starting + s.pool.woken

inductive Deed
  | submit (body : Body) (spawns : Bool)
  -- none when no worker waits
  | notify (worker : Option Nat)
  | wake (worker : Nat) (timedOut : Bool)
  | turn (worker : Nat)
  | endTask (worker : Nat) (ending : Ending Product)
  | finish (worker : Nat)
  | shutdown (origin : Option Nat)
  | shutdownNow (origin : Option Nat)
  | dropTask (call : Nat)
  | countDropped (call : Nat)
  | alert (call : Nat)
  | skip (call : Nat)
  | join (call : Nat)
  | confirm (call : Nat)
  | read (channel : Nat)
  | dropHandle (channel : Nat)

open Function in
inductive Step (s : Session) : Deed → Session → Prop
  | refuse {body spawns pool why}
      (h : s.pool.submitWith spawns ⟨body, s.submits⟩ = (pool, .error why)) :
      Step s (.submit body spawns)
        { s with pool, channels := update s.channels s.submits .closed, submits := s.submits + 1 }
  | accept {body spawns pool}
      (h : s.pool.submitWith spawns ⟨body, s.submits⟩ = (pool, .ok ())) :
      Step s (.submit body spawns)
        { s with
          pool
          channels := update s.channels s.submits .empty
          notices := s.notices + 1
          threads := s.pool.threadsAfter s.threads pool
          submits := s.submits + 1
          failedSpawns := s.failedSpawns + if spawns then 0 else 1
          accepted := s.accepted ++ [⟨body, s.submits⟩] }
  | notify {id timed n} (hn : s.notices = n + 1) (hw : ⟨id, .waiting timed⟩ ∈ s.pool.crew) :
      Step s (.notify (some id))
        { s with pool := s.pool.setPhase id (.woken false), notices := n }
  | notifyNobody {n} (hn : s.notices = n + 1) (hw : s.pool.waiting = 0) :
      Step s (.notify none) { s with notices := n }
  | stir {id timed} (hw : ⟨id, .waiting timed⟩ ∈ s.pool.crew) :
      Step s (.wake id false) { s with pool := s.pool.setPhase id (.woken false) }
  | timeOut {id} (hw : ⟨id, .waiting true⟩ ∈ s.pool.crew) :
      Step s (.wake id true) { s with pool := s.pool.timeOut id }
  | turn {w pool turn} (hw : w ∈ s.pool.crew) (h : s.pool.turn w = some (pool, turn)) :
      Step s (.turn w.id) { s with pool, dispatched := s.dispatched ++ turn.begun }
  | endTask {id task ending armed conclusion channel} (hr : s.IsRunning id task)
      (hc : ∀ call ∈ s.calls, call.origin = some id → call.stage = .returned)
      (h : conclude armed ending (s.channels task.channel) = (conclusion, channel)) :
      Step s (.endTask id ending)
        { s with
          channels := update s.channels task.channel channel
          executions := s.executions ++ [⟨task, ending, conclusion⟩] }
  | finish {id e} (hw : ⟨id, .executing e.task⟩ ∈ s.pool.crew) (he : e ∈ s.executions) :
      Step s (.finish id)
        { s with
          pool := (s.pool.finish id e.conclusion).1
          dispatched := s.dispatched ++ (s.pool.finish id e.conclusion).2.begun
          completed := s.completed ++ e.completed
          panicked := s.panicked ++ e.panicked
          lost := s.lost ++ e.lost }
  | shutdownStopped {origin} (ho : s.CanCall origin) (h : s.pool.beginDrain = none) :
      Step s (.shutdown origin)
        { s with calls := s.calls ++ [{ origin, graceful := true, stage := .returned }] }
  | shutdown {origin pool queued} (ho : s.CanCall origin)
      (h : s.pool.beginDrain = some (pool, queued)) :
      Step s (.shutdown origin)
        { s with pool, calls := s.calls ++ [{ origin, graceful := true, stage := .alerting }] }
  | shutdownNow {origin} (ho : s.CanCall origin) :
      Step s (.shutdownNow origin)
        { s with
          pool := s.pool.takeQueued.1
          calls := s.calls ++
            [{ origin, graceful := false, stage := .dropping, undropped := s.pool.takeQueued.2 }] }
  | dropTask {before call after task rest} (hc : s.calls = before ++ call :: after)
      (hs : call.stage = .dropping) (hu : call.undropped = task :: rest) :
      Step s (.dropTask before.length)
        { s with
          channels := update s.channels task.channel (s.channels task.channel).dropProducer
          calls := before ++
            { call with dropped := call.dropped ++ [task], undropped := rest } :: after }
  | countDropped {before call after} (hc : s.calls = before ++ call :: after)
      (hs : call.stage = .dropping) (hu : call.undropped = []) :
      Step s (.countDropped before.length)
        { s with
          pool := s.pool.countDiscarded call.dropped.length
          calls := before ++ { call with stage := .alerting } :: after }
  | alert {before call after} (hc : s.calls = before ++ call :: after)
      (hs : call.stage = .alerting) :
      Step s (.alert before.length)
        { s with
          pool := s.pool.notifyAll
          calls := before ++ { call with stage := .deciding } :: after }
  | skip {before call after worker} (hc : s.calls = before ++ call :: after)
      (hs : call.stage = .deciding) (ho : call.origin = some worker) :
      Step s (.skip before.length)
        { s with calls := before ++ { call with stage := .returned } :: after }
  | join {before call after} (hc : s.calls = before ++ call :: after)
      (hs : call.stage = .deciding) (ho : call.origin = none) :
      Step s (.join before.length)
        { s with
          threads := []
          calls := before ++ { call with stage := .waiting s.threads } :: after }
  | confirm {before call after joined} (hc : s.calls = before ++ call :: after)
      (hs : call.stage = .waiting joined) (ha : s.pool.active = 0)
      (hj : ∀ t ∈ joined, s.pool.phase? t = none) :
      Step s (.confirm before.length)
        { s with
          pool := s.pool.confirmStopped.1
          calls := before ++ { call with stage := .returned } :: after }
  | read {c outcome channel} (hh : s.IsHeld c)
      (hr : (s.channels c).join = some (outcome, channel)) :
      Step s (.read c)
        { s with
          channels := update s.channels c channel
          told := update s.told c (some outcome) }
  | dropHandle {c} (hh : s.IsHeld c) :
      Step s (.dropHandle c)
        { s with channels := update s.channels c (s.channels c).dropReader.1 }

inductive Reachable (c : PoolConfig) : Session → Prop
  | start : Reachable c (.start c)
  | next {s s' : Session} {d : Deed} (h : Reachable c s) (st : Step s d s') : Reachable c s'

def solo : PoolConfig := { coreThreads := 1, maxThreads := 1, queueCapacity := 1 }

end Session
end TaskEngine
