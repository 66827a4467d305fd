import TaskEngine.Scenario.Caller

/-! Ticks only happen while the scenario waits for them. Time then passes from one tick to
the next, each with its turn of the body that its number calls for. -/

namespace TaskEngine
namespace World

def releaseActuator (w : World) : World :=
  let w := (w.callAndSettle .periodicStop).2
  match w.actuator? with
  | some entry => w.setActuator { entry with dropped := true }
  | none => w

def createActuator (w : World) (interval : Duration) (bodies : List (Nat × Body)) :
    Answer × World :=
  match Actuator.create interval with
  | .error error => (.created (.error error), w)
  | .ok actuator =>
    let w := w.releaseActuator
    let entry : ActuatorEntry := { key := w.actuators.length, actuator, bodies }
    (.created (.ok ()), { w with actuators := w.actuators ++ [entry] })

/-- The live loop whose next tick is due first, of those that sleep. -/
def nextLoop? (a : Actuator) : Option TickLoop :=
  match a.loops.filter fun l => l.phase == .sleeping && !l.stopRequested with
  | [] => none
  | l :: rest => some (rest.foldl (fun m l => if l.due < m.due then l else m) l)

def nextTick? (w : World) : Option World := do
  let entry ← w.actuator?
  let l ← nextLoop? entry.actuator
  let now := Nat.max w.realNow l.due
  let begun := entry.begun + 1
  let w := { w with realNow := now }.setActuator
    { entry with begun, actuator := entry.actuator.beginTick l.id now }
  return w.addStrand (.tick entry.key l.id) ((entry.bodies.lookup begun).getD [])

/-- Lets time pass, at most `ticks` ticks of it, until the condition holds at rest. -/
def passTime (condition : World → Bool) : Nat → World → World
  | 0, w => w
  | ticks + 1, w =>
    if condition w then w
    else
      match w.nextTick? with
      | some w => passTime condition ticks w.settle
      | none => w

def takeTickNotes (w : World) : List Note × World := (w.tickNotes, { w with tickNotes := [] })

def ticksEnded (w : World) : Nat := (w.latestActuator?.map ActuatorEntry.ended).getD 0

def tickBodies (w : World) : List (Nat × Body) :=
  (w.latestActuator?.map ActuatorEntry.bodies).getD []

def waitTicks (w : World) (count : Nat) : Answer × World :=
  let reached (w : World) : Bool := count ≤ w.ticksEnded
  let w := passTime reached (count + w.tickBodies.length + 1) w
  let (notes, w) := w.takeTickNotes
  (.ticksReached (reached w) notes, w)

/-- What is known of ticks outlives their actuator. -/
def ticks (w : World) : Answer × World :=
  let (notes, w) := w.takeTickNotes
  (.ticksEnded w.ticksEnded notes, w)

def isBlockedAt (gate : String) (s : Strand) : Bool :=
  match s.hold with
  | some (.gate name) => name == gate
  | _ => false

/-- Lets time pass until a strand is blocked at the gate; all bodies have been tried then. -/
def waitGate (w : World) (gate : String) : Answer × World :=
  let blocked (w : World) : Bool := w.strands.any (isBlockedAt gate)
  let last := w.tickBodies.foldl (fun n b => Nat.max n b.1) 0
  let w := passTime blocked (last + 1) w
  (.flag (blocked w), w)

def dropActuator (w : World) : Answer × World :=
  w.withActuator fun _ =>
    if w.isTickBlocked then (.actuatorBusy, w) else (.dropped, w.releaseActuator)

end World
end TaskEngine
