import TaskEngine.Scenario.Call

/-! The moves that a world makes without its caller. A world that settles makes the first of
its enabled moves, again and again, and lets time pass only when there is nothing else to
do. -/

namespace TaskEngine
namespace World

def afterTurn (w : World) (key worker : Nat) : Turn PoolTask → World
  | .run task =>
    let place := Place.worker key worker
    (w.emit place (.workerMoved worker .idle .executing)).addStrand place task.body
  | .wait => w
  | .leave retired last =>
    let place := Place.worker key worker
    let w := if retired then w.emit place (.workerMoved worker .idle .retiring) else w
    let source := if retired then LoggedPhase.retiring else .idle
    let w := w.emit place (.workerMoved worker source .terminated)
    let w := if last then w.emit place (.poolStopped .worker) else w
    w.emit place (if retired then .workerRetired worker else .workerExited worker)
  | .die last =>
    let place := Place.worker key worker
    let w := w.emit place (.workerMoved worker .executing .terminated)
    if last then w.emit place (.poolStopped .worker) else w

def workerTurn (w : World) (entry : PoolEntry) (worker : Worker PoolTask) : World :=
  match entry.pool.turn worker with
  | none => w
  | some (pool, turn) =>
    let w :=
      match worker.phase with
      | .starting => w.emit (.worker entry.key worker.id) (.workerStarted worker.id)
      | _ => w
    (w.setPool { entry with pool }).afterTurn entry.key worker.id turn

/-- A pool's task has ended: its outcome is delivered and counted, and its worker looks for
more work or, if a panic got through, dies. -/
def endPoolTask (w : World) (key worker : Nat) (ending : Ending Product) : World :=
  let place := Place.worker key worker
  match w.poolByKey? key with
  | none => w
  | some entry =>
    match entry.pool.phase? worker with
    | some (.executing task) =>
      let (conclusion, channel) := conclude w.armed ending (w.channel task.channel)
      let w := w.setChannel task.channel channel
      let w :=
        match conclusion with
        | .completed => w.emit place (.workerMoved worker .executing .idle)
        | .panicked error =>
          (w.emit place (.taskPanicked worker error)).emit place
            (.workerMoved worker .executing .idle)
        | .unwound => w.emit place (.workerUnwound worker)
      let unwound :=
        if conclusion = .unwound then entry.unwound ++ [worker] else entry.unwound
      let (pool, turn) := entry.pool.finish worker conclusion
      (w.setPool { entry with pool, unwound }).afterTurn key worker turn
    | _ => w

/-- A callable has ended: if its id is still pending the outcome is stored, otherwise it is
dropped. A callable whose panic got through leaves its id pending for ever. -/
def endCallable (w : World) (key id : Nat) (ending : Ending Product) : World :=
  let place := Place.callable key id
  match w.schedulerByKey? key with
  | none => w
  | some s =>
    let c := (s.running.lookup id).getD w.channels.size
    let s := { s with running := s.running.filter fun r => r.1 != id }.setFate id .ran
    let w := w.setScheduler s
    match ending.capture with
    | none => w.dropProducer c
    | some outcome =>
      let w :=
        match outcome with
        | .error error => w.emit place (.delayedPanicked id error)
        | .ok _ => w
      let (phase, agenda) := s.agenda.takePending id
      let w := w.setAgenda s agenda
      if phase.isSome then
        let (channel, undelivered) := (w.channel c).complete outcome
        let w := w.setChannel c channel
        match undelivered.bind (dropPanic w.armed) with
        | some message => w.emit place (.outcomePanicked id (.panicked message))
        | none => w
      else (w.emit place (.outcomeDropped id)).dropProducer c

/-- What comes of a tick. Nobody reads what it returns, so a fragile value is dropped within
the capture. -/
def tickOutcome (armed : Bool) (ending : Ending Product) : Option (Outcome Product) :=
  ending.capture.map fun outcome =>
    match dropPanic armed outcome with
    | some message => .error (.panicked message)
    | none => outcome

def endTick (w : World) (key loop : Nat) (ending : Ending Product) : World :=
  match w.actuatorByKey? key with
  | none => w
  | some entry =>
    let entry := { entry with ended := entry.ended + 1 }
    match tickOutcome w.armed ending with
    | none => w.setActuator { entry with actuator := entry.actuator.die loop }
    | some outcome =>
      let w := w.setActuator { entry with actuator := entry.actuator.endTick loop }
      match outcome with
      | .error error => w.emit (.tick key loop) (.tickPanicked error)
      | .ok _ => w

def endBody (w : World) (place : Place) (ending : Ending Product) : World :=
  let w := w.dropStrand place
  match place with
  | .worker key worker => w.endPoolTask key worker ending
  | .callable key id => w.endCallable key id ending
  | .tick key loop => w.endTick key loop ending
  | .caller _ | .main =>
    match ending with
    | .panicked (.text message) => w.deliver place (.panicked (some message))
    | _ => w

def react (w : World) (place : Place) : Reaction → World
  | .answered answer => w.deliver place answer
  | .blocked hold => w.setStrand place fun s => { s with hold := some hold }
  | .panicked message => w.endBody place (.panicked (.text message))

def act (w : World) (s : Strand) : World :=
  match s.todo with
  | [] => w.endBody s.place (.returned (.plain .null))
  | action :: rest =>
    let w := w.setStrand s.place fun s => { s with todo := rest }
    match action with
    | .gate name =>
      if w.isGateOpen name then w
      else w.setStrand s.place fun s => { s with hold := some (.gate name) }
    | .note value => w.addNote s.place (.value value)
    | .threadName => w.addNote s.place (.thread (w.threadName s.place))
    | .finish product => w.endBody s.place (.returned product)
    | .panic payload => w.endBody s.place (.panicked payload)
    | .call c =>
      let (reaction, w) := w.perform s.place c
      w.react s.place reaction

def unblock (w : World) (place : Place) : World :=
  w.setStrand place fun s => { s with hold := none }

def endShutdown (w : World) (span : LogSpan) (place : Place) (entry : PoolEntry)
    (joined : List Nat) : World :=
  let w := (joined.filter entry.unwound.contains).foldl
    (fun w _ => w.emitIn (some span) place .workerDied) w
  let (pool, first) := entry.pool.confirmStopped
  let w := w.setPool { entry with pool }
  if first then w.emitIn (some span) place (.poolStopped .caller) else w

def endStop (w : World) (place : Place) (entry : ActuatorEntry) (loop : Nat) : World :=
  let w := if entry.actuator.isDead loop then w.emit place .actuatorDied else w
  let w := w.setActuator { entry with actuator := entry.actuator.confirmStopped }
  w.emit place .actuatorStopped

def isOver (w : World) : Hold → Bool
  | .gate name => w.isGateOpen name
  | .outcome c => (w.channel c).isResolved
  | .result _ c => (w.channel c).isResolved
  | .workers _ key joined _ =>
    match w.poolByKey? key with
    | none => true
    | some entry => entry.pool.active == 0 && joined.all fun t => (entry.pool.phase? t).isNone
  | .tickLoop key loop =>
    match w.actuatorByKey? key with
    | none => true
    | some entry => !entry.actuator.isLive loop

def goOn (w : World) (place : Place) (hold : Hold) : World :=
  let w := w.unblock place
  match hold with
  | .gate _ => w
  | .outcome c =>
    match w.readChannel c with
    | some (outcome, w) => w.deliver place (.outcome outcome)
    | none => w
  | .result id c =>
    match w.readChannel c with
    | some (outcome, w) => w.deliver place (resultAnswer id outcome)
    | none => w
  | .workers span key joined answer =>
    match w.poolByKey? key with
    | some entry => (w.endShutdown span place entry joined).deliver place answer
    | none => w.deliver place answer
  | .tickLoop key loop =>
    match w.actuatorByKey? key with
    | some entry => (w.endStop place entry loop).deliver place .actuatorStopped
    | none => w.deliver place .actuatorStopped

def leaveLoop (w : World) (key loop : Nat) : World :=
  match w.actuatorByKey? key with
  | some entry =>
    let w := w.setActuator { entry with actuator := entry.actuator.leave loop }
    w.emit (.tick key loop) .stopRequested
  | none => w

/-- The thread that a timer fires on. The virtual clock is in the hands of the scenario's own
caller; a clock of real time has a thread of its own. -/
def firingPlace (s : Scheduler) (timer : Timer) : Place :=
  match s.clock with
  | .virtual => .main
  | .real => .callable s.key timer.id

/-- The time of a timer has come: it claims its id and starts its callable. -/
def fire (w : World) (key : Nat) (timer : Timer) : World :=
  match w.schedulerByKey? key with
  | none => w
  | some s =>
    let place := firingPlace s timer
    let s := { s with timers := s.timers.filter fun t => t.id != timer.id }
    match s.agenda.claim timer.id with
    | none =>
      ((w.setScheduler s).emit place (.firedTooLate timer.id)).dropProducer timer.channel
    | some agenda =>
      let running := s.running ++ [(timer.id, timer.channel)]
      let w := w.setScheduler ({ s with agenda, running }.setFate timer.id .running)
      (w.emit place (.taskFired timer.id)).addStrand (.callable key timer.id) timer.body

def dueTimers (w : World) : List (Nat × Timer) :=
  w.schedulers.flatMap fun s =>
    let due := s.timers.filter fun t => t.isDue s.now
    (due.mergeSort fun t u => t.due.getD 0 ≤ u.due.getD 0).map fun t => (s.key, t)

def nextDue? (s : Scheduler) : Option Nat :=
  match s.clock with
  | .virtual => none
  | .real => (s.timers.filterMap Timer.due).min?

def elapsing (w : World) : List Nat :=
  (w.schedulers.filter fun s => (nextDue? s).any fun due => s.now < due).map Scheduler.key

def elapse (w : World) (key : Nat) : World :=
  match w.schedulerByKey? key with
  | some s => w.setScheduler { s with now := (nextDue? s).getD s.now }
  | none => w

inductive Move
  | act (place : Place)
  | goOn (place : Place)
  | turn (pool worker : Nat)
  | leave (actuator loop : Nat)
  | fireTimers
  | elapse (scheduler : Nat)
  | timeOut (pool worker : Nat)
  deriving DecidableEq

/-- The longest idle timeout that passes while the world comes to rest. -/
def shortTimeout : Duration := .ofMillis 100

def wantsTurn (worker : Worker PoolTask) : Bool :=
  match worker.phase with
  | .starting | .woken _ => true
  | .waiting _ | .executing _ => false

def mayTimeOut (entry : PoolEntry) (worker : Worker PoolTask) : Bool :=
  worker.phase matches .waiting true &&
    decide (entry.config.idleTimeout.nanoseconds ≤ shortTimeout.nanoseconds)

def workers (w : World) (f : PoolEntry → Worker PoolTask → Bool) : List (Nat × Nat) :=
  w.pools.flatMap fun entry =>
    (entry.pool.crew.filter (f entry)).map fun worker => (entry.key, worker.id)

def leavingLoops (w : World) : List (Nat × Nat) :=
  w.actuators.flatMap fun entry =>
    let leaving := entry.actuator.loops.filter fun l => l.stopRequested && l.phase == .sleeping
    leaving.map fun l => (entry.key, l.id)

def enabled (w : World) : List Move :=
  let acting := w.strands.filter fun s => s.hold.isNone
  let blocked := w.strands.filter fun s => s.hold.any w.isOver
  acting.map (fun s => .act s.place) ++ blocked.map (fun s => .goOn s.place) ++
    (w.workers fun _ => wantsTurn).map (fun (key, id) => .turn key id) ++
    w.leavingLoops.map (fun (key, id) => .leave key id) ++
    (if w.dueTimers.isEmpty then [] else [.fireTimers]) ++ w.elapsing.map Move.elapse ++
    (w.workers mayTimeOut).map (fun (key, id) => .timeOut key id)

def make (w : World) : Move → World
  | .act place =>
    match w.strands.find? fun s => s.place == place with
    | some s => w.act s
    | none => w
  | .goOn place =>
    match (w.strands.find? fun s => s.place == place).bind Strand.hold with
    | some hold => w.goOn place hold
    | none => w
  | .turn key id =>
    match w.poolByKey? key with
    | none => w
    | some entry =>
      match entry.pool.crew.find? fun worker => worker.id == id with
      | some worker => w.workerTurn entry worker
      | none => w
  | .leave key loop => w.leaveLoop key loop
  | .fireTimers => w.dueTimers.foldl (fun w (key, timer) => w.fire key timer) w
  | .elapse key => w.elapse key
  | .timeOut key id =>
    match w.poolByKey? key with
    | some entry => w.setPool { entry with pool := entry.pool.timeOut id }
    | none => w

def atRest (w : World) : Bool := w.enabled.isEmpty

/-- Bounds the moves that are left: each takes from the actions to come, or is one of the
few that a worker, a loop or a blocked strand has before the next action. -/
def weight (w : World) : Nat :=
  let bodies (bs : List Body) : Nat := bs.foldl (fun n b => n + Body.weight b) 0
  let strands := bodies (w.strands.map Strand.todo) + 2 * w.strands.length
  let pools := w.pools.foldl
    (fun n e => n + bodies (e.pool.queue.items.map PoolTask.body) + e.pool.crew.length) 0
  let timers := w.schedulers.foldl
    (fun n s => n + bodies (s.timers.map Timer.body) + s.timers.length) 0
  let loops := w.actuators.foldl (fun n e => n + e.actuator.loops.length) 0
  strands + pools + timers + loops + 1

def settleUpTo : Nat → World → World
  | 0, w => w
  | moves + 1, w =>
    match w.enabled with
    | [] => w
    | move :: _ => settleUpTo moves (w.make move)

/-- Moves until nothing moves by itself. -/
def settle (w : World) : World := settleUpTo (16 * w.weight) w

end World
end TaskEngine
