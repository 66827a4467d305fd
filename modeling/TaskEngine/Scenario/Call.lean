import TaskEngine.Scenario.World

/-! What each call does at once: it is answered, or its thread is blocked from then on, or
it panics. A worker that shuts its own pool down does not wait for itself, nor does a tick
that stops its own loop. A tick runs inside an event loop, where a read of an outcome panics
rather than block. -/

namespace TaskEngine

inductive Reaction
  | answered (answer : Answer)
  | blocked (hold : Hold)
  | panicked (message : String)

namespace World

def blockingRefused : String :=
  "Cannot block the current thread from within a runtime. This happens because a function " ++
  "attempted to block the current thread while the thread is being used to drive " ++
  "asynchronous tasks."

def isInEventLoop : Place → Bool
  | .tick .. => true
  | _ => false

/-- Submits a task; also gives the channel of its handle when it was accepted. -/
def submit (w : World) (place : Place) (entry : PoolEntry) (body : Body) :
    Except Refusal Nat × World :=
  let (c, w) := w.openChannel
  match entry.pool.submit ⟨body, c⟩ with
  | (pool, .ok ()) => (.ok c, w.setPool (entry.afterSubmit pool.notifyOne))
  | (pool, .error error) =>
    let event : LogEvent :=
      match error with
      | .stopped => .refusedStopping
      | .queueFull capacity => .refusedFull capacity
    (.error error, ((w.setChannel c .closed).setPool { entry with pool }).emit place event)

/-- Keeps a handle under its name. The one that had the name before is dropped. -/
def keepHandle (w : World) (name : String) (c : Nat) : Option String × World :=
  let old := w.handles.lookup name
  let w := { w with handles := withoutName name w.handles ++ [(name, c)] }
  match old with
  | some c => w.dropReader c
  | none => (none, w)

def callSubmit (w : World) (place : Place) (pool : String) (handle : Option String)
    (body : Body) : Reaction × World :=
  match w.pool? pool with
  | none => (.answered (.missing .pool), w)
  | some entry =>
    match w.submit place entry body with
    | (.error error, w) => (.answered (.submitted (.error error)), w)
    | (.ok c, w) =>
      let (panic, w) :=
        match handle with
        | some name => w.keepHandle name c
        | none => w.dropReader c
      match panic with
      | some message => (.panicked message, w)
      | none => (.answered (.submitted (.ok ())), w)

def callStatus (w : World) (pool : String) : Answer :=
  match w.pool? pool with
  | none => .missing .pool
  | some { pool := p, .. } => .status p.stage p.isAccepting p.active p.idle p.queue.size

def callConfig (w : World) (pool : String) : Answer :=
  match w.pool? pool with
  | none => .missing .pool
  | some entry => .config entry.config.toText entry.config.queueCapacity.toNat

/-- Waits for a pool's workers, unless the caller is one of them. -/
def awaitWorkers (w : World) (span : LogSpan) (place : Place) (key : Nat) (answer : Answer) :
    Reaction × World :=
  if place.isWorkerOf key then (.answered answer, w.emitIn (some span) place .shutdownFromWorker)
  else
    match w.poolByKey? key with
    | none => (.answered answer, w)
    | some entry =>
      (.blocked (.workers span key entry.threads answer), w.setPool { entry with threads := [] })

def callShutdown (w : World) (place : Place) (pool : String) : Reaction × World :=
  match w.pool? pool with
  | none => (.answered (.missing .pool), w)
  | some entry =>
    match entry.pool.beginDrain with
    | none => (.answered .shutDown, w)
    | some (p, first) =>
      let w := w.setPool { entry with pool := p.notifyAll }
      let w :=
        match first with
        | some queued => w.emitIn (some .shutdown) place (.drainStarted queued)
        | none => w
      w.awaitWorkers .shutdown place entry.key .shutDown

def callShutdownNow (w : World) (place : Place) (pool : String) : Reaction × World :=
  match w.pool? pool with
  | none => (.answered (.missing .pool), w)
  | some entry =>
    let (p, tasks) := entry.pool.takeQueued
    let w := tasks.foldl (fun w task => w.dropProducer task.channel) w
    let w := w.setPool { entry with pool := (p.countDiscarded tasks.length).notifyAll }
    let w := w.emitIn (some .shutdownNow) place (.queueDropped tasks.length)
    w.awaitWorkers .shutdownNow place entry.key (.discarded tasks.length)

def takeHandle (w : World) (name : String) : Option Nat × World :=
  (w.handles.lookup name, { w with handles := withoutName name w.handles })

def readChannel (w : World) (c : Nat) : Option (Outcome Product × World) :=
  (w.channel c).join.map fun (outcome, channel) => (outcome, w.setChannel c channel)

def callJoin (w : World) (place : Place) (handle : String) : Reaction × World :=
  match w.takeHandle handle with
  | (none, w) => (.answered (.missing .handle), w)
  | (some c, w) =>
    if isInEventLoop place then (.panicked blockingRefused, (w.dropReader c).2)
    else
      match w.readChannel c with
      | some (outcome, w) => (.answered (.outcome outcome), w)
      | none => (.blocked (.outcome c), w)

def setAgenda (w : World) (s : Scheduler) (agenda : Agenda Nat) : World :=
  w.setScheduler { s with agenda }

/-- When a task scheduled now is due. On the real clock only short delays pass. -/
def dueTime (s : Scheduler) (delay : Duration) : Option Nat :=
  let due := s.now + (Clock.wait (s.now * 1_000_000) delay).ceilMillis
  match s.clock with
  | .virtual => some due
  | .real => if delay.secs = 0 then some due else none

def schedule (w : World) (place : Place) (s : Scheduler) (delay : Duration) (body : Body) :
    Answer × World :=
  let (c, opened) := w.openChannel
  match s.agenda.schedule c with
  | none => (.scheduled (.error .stopped), w)
  | some (id, agenda) =>
    let timer : Timer := { id, due := dueTime s delay, body, channel := c }
    let s := { s with
      agenda, timers := s.timers ++ [timer], fates := s.fates ++ [(id, Fate.waiting)] }
    let w := opened.setScheduler s
    (.scheduled (.ok id), w.emit place (.taskScheduled id delay.millis64.toNat))

/-- A negative delay is refused before anything else is looked at. -/
def callSchedule (w : World) (place : Place) (delay : Delay) (body : Body) : Answer × World :=
  match w.scheduler? with
  | none => (.missing .scheduler, w)
  | some s =>
    match delay with
    | .span d => w.schedule place s d body
    | .millis n =>
      if n < 0 then
        (.scheduled (.error (.invalidArgument
          ("delay must be non-negative, got " ++ toString n ++ "ms"))), w)
      else w.schedule place s (.ofMillis (UInt64.ofNat n.toNat)) body

def abortTimer (w : World) (key id : Nat) : World :=
  match w.schedulerByKey? key with
  | none => w
  | some s =>
    match s.timers.find? fun t => t.id == id with
    | none => w
    | some timer =>
      let s := { s with timers := s.timers.filter fun t => t.id != id }.setFate id .dropped
      (w.setScheduler s).dropProducer timer.channel

def callCancel (w : World) (place : Place) (id : Nat) : Reaction × World :=
  match w.scheduler? with
  | none => (.answered (.missing .scheduler), w)
  | some s =>
    let panic (c : Nat) : Option String := (w.dropReader c).1
    let reader := s.agenda.reader? id
    let (cancellation, agenda) := s.agenda.cancel (fun c => (panic c).isSome) id
    let w := w.setAgenda s agenda
    let w :=
      match reader with
      | some c => (w.dropReader c).2
      | none => w
    match cancellation with
    | .panicked => (.panicked ((reader.bind panic).getD ""), w)
    | .found _ phase =>
      let w :=
        match phase with
        | some .waiting => w.abortTimer s.key id
        | some .running => w.emit place (.runningCancelled id)
        | none => w
      (.answered (.flag cancellation.succeeded),
        if cancellation.succeeded then w.emit place (.taskCancelled id phase.isSome) else w)

def resultAnswer (id : Nat) : Outcome Product → Answer
  | .ok product => .result (.ok product)
  | .error error => .result (.error (.ofTask id error))

def callResult (w : World) (place : Place) (id : Nat) : Reaction × World :=
  match w.scheduler? with
  | none => (.answered (.missing .scheduler), w)
  | some s =>
    let (reader, agenda) := s.agenda.takeReader id
    let w := w.setAgenda s agenda
    match reader with
    | none => (.answered (.result (.error (.notFound id))), w)
    | some c =>
      if isInEventLoop place then (.panicked blockingRefused, (w.dropReader c).2)
      else
        match w.readChannel c with
        | some (outcome, w) => (.answered (resultAnswer id outcome), w)
        | none => (.blocked (.result id c), w)

/-- Shuts the scheduler down: nothing is pending any more, and the timers are aborted. -/
def shutdownScheduler (w : World) (place : Place) (s : Scheduler) : World :=
  match s.agenda.shutdown with
  | none => w
  | some (pending, agenda) =>
    let w := pending.foldl (fun w p => w.abortTimer s.key p.1) (w.setAgenda s agenda)
    w.emit place (.schedulerStopped pending.length)

def withScheduler (w : World) (f : Scheduler → Answer × World) : Answer × World :=
  match w.scheduler? with
  | none => (.missing .scheduler, w)
  | some s => f s

def withActuator (w : World) (f : ActuatorEntry → Answer × World) : Answer × World :=
  match w.actuator? with
  | none => (.missing .actuator, w)
  | some entry => f entry

def callStart (w : World) (place : Place) : Answer × World :=
  w.withActuator fun entry =>
    match entry.actuator.start w.realNow with
    | .error error => (.started (.error error), w)
    | .ok actuator =>
      let w := w.setActuator { entry with actuator }
      (.started (.ok ()), w.emit place (.actuatorStarted actuator.interval.millis64.toNat))

def callStop (w : World) (place : Place) : Reaction × World :=
  match w.actuator? with
  | none => (.answered (.missing .actuator), w)
  | some entry =>
    match entry.actuator.requestStop with
    | none => (.answered .actuatorStopped, w)
    | some (loop, actuator) =>
      let w := w.setActuator { entry with actuator }
      if place = .tick entry.key loop then
        (.answered .actuatorStopped, w.emit place .stoppedFromTick)
      else (.blocked (.tickLoop entry.key loop), w)

def answered (r : Answer × World) : Reaction × World := (.answered r.1, r.2)

def perform (w : World) (place : Place) : Call Body → Reaction × World
  | .submit pool handle body => w.callSubmit place pool handle body
  | .join handle => w.callJoin place handle
  | .status pool => (.answered (w.callStatus pool), w)
  | .config pool => (.answered (w.callConfig pool), w)
  | .shutdown pool => w.callShutdown place pool
  | .shutdownNow pool => w.callShutdownNow place pool
  | .schedule delay body => answered (w.callSchedule place delay body)
  | .isPending id =>
    answered (w.withScheduler fun s => (.flag (s.agenda.isPending id), w))
  | .cancel id => w.callCancel place id
  | .pendingCount =>
    answered (w.withScheduler fun s => (.count s.agenda.pendingCount, w))
  | .result id => w.callResult place id
  | .schedulerShutdown =>
    answered (w.withScheduler fun s => (.shutDown, w.shutdownScheduler place s))
  | .periodicStart => answered (w.callStart place)
  | .periodicStop => w.callStop place
  | .isRunning => answered (w.withActuator fun entry => (.flag entry.actuator.running, w))
  | .interval => answered (w.withActuator fun entry => (.interval entry.actuator.interval, w))

end World
end TaskEngine
