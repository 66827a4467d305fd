import TaskEngine.Scenario.DelayedSteps
import TaskEngine.Scenario.PeriodicSteps
import TaskEngine.Scenario.PoolSteps

/-! The steps are taken one after the other, and after each the world comes to rest and is
looked at. After the last one fragile values are disarmed, all gates open, and everything is
dropped. -/

namespace TaskEngine
namespace World

def takeStep (w : World) : Step → Answer × World
  | .call c => w.callUnlessPending c
  | .panic message => (.panicked (some message), w)
  | .background c => w.background c
  | .report target message level => (.done, w.emit .main (.foreign target message level))
  | .createPool name config => w.createPool name config
  | .submitMany pool count label => w.submitMany pool count label
  | .stress pool threads each => w.stress pool threads each
  | .release gate => (.done, { w with gates := gate :: w.gates })
  | .tryJoin handle => w.tryJoin handle
  | .pollHandle handle => w.pollHandle handle
  | .joinInAsync handle => w.joinInAsync handle
  | .dropHandle handle => w.dropHandle handle
  | .collect number => w.collect number
  | .dropPool pool => w.dropPool pool
  | .createScheduler clock => w.createScheduler clock
  | .advance millis => w.advance millis
  | .resultInAsync id => w.resultInAsync id
  | .startFuture future id => w.startFuture future id
  | .pollFuture future => w.pollFuture future
  | .dropFuture future => w.dropFuture future
  | .fates => (w.fates, w)
  | .dropScheduler => w.dropScheduler
  | .createActuator interval bodies => w.createActuator interval bodies
  | .waitTicks count => w.waitTicks count
  | .ticks => w.ticks
  | .waitGate gate => w.waitGate gate
  | .dropActuator => w.dropActuator

def poolsByName (w : World) : List PoolEntry :=
  w.pools.mergeSort fun e f => e.name ≤ f.name

structure PoolView where
  name : String
  stage : PoolStage
  accepting : Bool
  active : Nat
  idle : Nat
  queued : Nat
  tally : Tally

/-- What is seen of a world at rest: its pools, the pending ids of its scheduler in order, and
whether its actuator is running. -/
structure Snapshot where
  pools : List PoolView
  pending : Option (List Nat)
  running : Option Bool

def viewPool (entry : PoolEntry) : PoolView :=
  let p := entry.pool
  { name := entry.name, stage := p.stage, accepting := p.isAccepting, active := p.active
    idle := p.idle, queued := p.queue.size, tally := p.tally }

def snapshot (w : World) : Snapshot :=
  { pools := w.poolsByName.map viewPool
    pending := w.scheduler?.map fun s =>
      (s.agenda.pending.map Prod.fst).mergeSort fun i j => i ≤ j
    running := w.actuator?.map fun entry => entry.actuator.running }

structure StepReport where
  answer : Answer
  notes : List Note
  snapshot : Snapshot

/-- Takes a step, comes to rest, and hands out the notes made since the last step, those of
delayed tasks in the order of their ids. -/
def step (w : World) (s : Step) : StepReport × World :=
  let (answer, w) := w.takeStep s
  let w := w.settle
  let notes := w.notes.mergeSort fun a b => a.1 ≤ b.1
  ({ answer, notes := notes.map Prod.snd, snapshot := w.snapshot }, { w with notes := [] })

/-- Lets everything go and gives back the whole log. -/
def finish (w : World) : List LogEntry :=
  let w := { w with armed := false, gatesOpen := true }.settle
  let w := (w.dropReaders (w.futures.filterMap fun f => f.2.claimed)).2
  let w := w.releaseActuator
  let w := if w.scheduler?.isSome then (w.callAndSettle .schedulerShutdown).2 else w
  let w := w.poolsByName.foldl (fun w entry => w.releasePool entry) w
  w.log.reverse

def playFrom (w : World) : List Step → List StepReport × World
  | [] => ([], w)
  | s :: rest =>
    let (report, w) := w.step s
    let (reports, w) := playFrom w rest
    (report :: reports, w)

end World

def play (steps : List Step) : List World.StepReport × List LogEntry :=
  let (reports, w) := World.playFrom {} steps
  (reports, w.finish)

end TaskEngine
