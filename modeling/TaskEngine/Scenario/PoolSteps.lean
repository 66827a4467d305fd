import TaskEngine.Scenario.Caller

/-! Pools are created under a name and dropped by it, tasks are submitted many at once, and
handles are read and dropped without waiting. -/

namespace TaskEngine
namespace World

def forgetPool (w : World) (entry : PoolEntry) : World :=
  let entry := (w.poolByKey? entry.key).getD entry
  let w := entry.pool.queue.items.foldl (fun w task => w.dropProducer task.channel) w
  { w with pools := w.pools.filter fun e => e.key != entry.key }

/-- A pool that is dropped is shut down first, unless it has stopped. -/
def releasePool (w : World) (entry : PoolEntry) : World :=
  let w :=
    if entry.pool.stage = .stopped then w else (w.callAndSettle (.shutdown entry.name)).2
  w.forgetPool entry

def isExecuting (worker : Worker PoolTask) : Bool := worker.phase matches .executing _

def dropPool (w : World) (name : String) : Answer × World :=
  match w.pool? name with
  | none => (.missing .pool, w)
  | some entry =>
    if entry.pool.crew.any isExecuting then (.poolBusy, w)
    else (.dropped, w.releasePool entry)

def startingEvent (c : PoolConfig) : LogEvent :=
  .poolStarting c.coreThreads.toNat c.maxThreads.toNat c.queueCapacity.toNat
    c.idleTimeout.millis64.toNat

/-- A pool of the same name is replaced: it is dropped once the new one is on its way. -/
def createPool (w : World) (name : String) (config : Except DecodeError PoolConfig) :
    Answer × World :=
  match config with
  | .error error => (.badText error, w)
  | .ok config =>
    match config.validate with
    | .error error => (.badConfig (.config error), w)
    | .ok () =>
      let w := w.emit .main (startingEvent config)
      let w :=
        match w.pool? name with
        | some entry => w.releasePool entry
        | none => w
      let pool := Pool.start config
      let entry : PoolEntry :=
        { key := w.nextPool, name, config, pool, threads := pool.crew.map Worker.id }
      (.done, { w with nextPool := w.nextPool + 1, pools := w.pools ++ [entry] })

/-- Submits one task after the other, before any worker moves. A panic ends it. -/
def submitAll (w : World) (pool : String) :
    List (Option String × Body) → Except String (List Answer) × World
  | [] => (.ok [], w)
  | (handle, body) :: rest =>
    match w.callSubmit .main pool handle body with
    | (.panicked message, w) => (.error message, w)
    | (.answered answer, w) =>
      let (answers, w) := submitAll w pool rest
      (answers.map (answer :: ·), w)
    | (.blocked _, w) => submitAll w pool rest

def accepted (answers : List Answer) : Nat :=
  (answers.filter fun answer => answer matches .submitted (.ok ())).length

def submitMany (w : World) (pool : String) (count : Nat) (label : String) : Answer × World :=
  let task (i : Nat) : Option String × Body :=
    (some (label ++ toString i), [.note (.ofNat i), .finish (.plain (.ofNat i))])
  match w.submitAll pool ((List.range count).map task) with
  | (.ok answers, w) => (.submittedMany (accepted answers) answers.getLast?, w)
  | (.error message, w) => (.panicked (some message), w)

def queuedSince (w : World) (pool : String) (first : Nat) : Nat :=
  match w.pool? pool with
  | none => 0
  | some entry => (entry.pool.queue.items.filter fun task => first ≤ task.channel).length

/-- Trivial tasks from several threads. Of those that are accepted, all that a worker has come
to are executed once the world is at rest. -/
def stress (w : World) (pool : String) (threads each : Nat) : Answer × World :=
  match w.pool? pool with
  | none => (.missing .pool, w)
  | some _ =>
    let first := w.channels.size
    match w.submitAll pool (List.replicate (threads * each) (none, [])) with
    | (.ok answers, w) =>
      let w := w.settle
      let n := accepted answers
      (.stressed n (n - w.queuedSince pool first), w)
    | (.error message, w) => (.panicked (some message), w)

def withHandle (w : World) (name : String) (f : Nat → Answer × World) : Answer × World :=
  match w.handles.lookup name with
  | some c => f c
  | none => (.missing .handle, w)

def forgetHandle (w : World) (name : String) : World :=
  { w with handles := withoutName name w.handles }

def tryJoin (w : World) (name : String) : Answer × World :=
  w.withHandle name fun c =>
    match (w.channel c).tryJoin with
    | .ok (outcome, channel) => (.outcome outcome, (w.setChannel c channel).forgetHandle name)
    | .error channel => (.pending, w.setChannel c channel)

def pollHandle (w : World) (name : String) : Answer × World :=
  w.withHandle name fun c =>
    match (w.channel c).poll with
    | (some outcome, channel) => (.outcome outcome, (w.setChannel c channel).forgetHandle name)
    | (none, channel) => (.pending, w.setChannel c channel)

/-- Waiting inside an event loop panics, and the handle is lost. -/
def joinInAsync (w : World) (name : String) : Answer × World :=
  w.withHandle name fun c => (.panicked none, (w.dropReader c).2.forgetHandle name)

def dropHandle (w : World) (name : String) : Answer × World :=
  w.withHandle name fun c =>
    let (panic, w) := (w.forgetHandle name).dropReader c
    (droppedOr panic, w)

end World
end TaskEngine
