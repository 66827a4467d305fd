import TaskEngine.Clock
import TaskEngine.Error

/-! An actuator ticks at a fixed interval while one of its loops holds the place. A stopper
gives the place up, tells the loop to stop, and clears the running flag once it has seen the
loop end. The loop clears the flag too as it leaves; one that a panic kills does not. -/

namespace TaskEngine

inductive LoopPhase
  | sleeping | ticking
  deriving DecidableEq

structure TickLoop where
  id : Nat
  due : Nat
  phase : LoopPhase := .sleeping
  stopRequested : Bool := false

structure Actuator where
  interval : Duration
  running : Bool := false
  active : Option Nat := none
  nextLoop : Nat := 0
  loops : List TickLoop := []
  dead : List Nat := []

namespace Actuator

def create (interval : Duration) : Except ScheduleError Actuator :=
  if interval.isZero then .error (.invalidArgument "interval must be positive")
  else .ok { interval }

def start (a : Actuator) (now : Nat) : Except ScheduleError Actuator :=
  if a.active.isSome then .error .alreadyRunning
  else
    let a := { a with running := true, active := some a.nextLoop, nextLoop := a.nextLoop + 1 }
    let loop := a.nextLoop - 1
    if Clock.reaches now a.interval then
      .ok { a with loops := a.loops ++ [{ id := loop, due := now + a.interval.nanoseconds }] }
    else .ok { a with dead := a.dead ++ [loop] }

def updateLoop (a : Actuator) (id : Nat) (f : TickLoop → TickLoop) : Actuator :=
  { a with loops := a.loops.map fun l => if l.id = id then f l else l }

/-- Gives up the place of the active loop and tells the loop to stop. -/
def requestStop (a : Actuator) : Option (Nat × Actuator) :=
  a.active.map fun id =>
    (id, { a with active := none }.updateLoop id fun l => { l with stopRequested := true })

def confirmStopped (a : Actuator) : Actuator := { a with running := false }

def isLive (a : Actuator) (id : Nat) : Bool := a.loops.any fun l => l.id == id

def isDead (a : Actuator) (id : Nat) : Bool := a.dead.contains id

/-- A tick begins at time `now`. The next one is due an interval after this one was, or
after `now` when this one is more than five milliseconds late. -/
def beginTick (a : Actuator) (id : Nat) (now : Nat) : Actuator :=
  a.updateLoop id fun l =>
    let start := if l.due + 5_000_000 < now then now else l.due
    { l with phase := .ticking, due := start + a.interval.nanoseconds }

def endTick (a : Actuator) (id : Nat) : Actuator :=
  a.updateLoop id fun l => { l with phase := .sleeping }

def dropLoop (a : Actuator) (id : Nat) : Actuator :=
  { a with loops := a.loops.filter fun l => l.id != id }

/-- A loop that was told to stop leaves, and clears the flag. -/
def leave (a : Actuator) (id : Nat) : Actuator := { a.dropLoop id with running := false }

/-- A panic has killed the loop. -/
def die (a : Actuator) (id : Nat) : Actuator := { a.dropLoop id with dead := a.dead ++ [id] }

end Actuator
end TaskEngine
