import TaskEngine.Scenario.Advance

/-! The scenario's own caller makes a call and lets the world come to rest. A read is not
made while there is nothing to read, and a call that may block for long is made in the
background. -/

namespace TaskEngine
namespace World

/-- A call by the scenario's own caller; pending when it has not returned at rest. -/
def callAndSettle (w : World) (c : Call Body) : Answer × World :=
  let w := ({ w with reply := none }.addStrand .main [.call c]).settle
  (w.reply.getD .pending, w)

def isUnresolved (w : World) (c : Option Nat) : Bool :=
  match c with
  | some c => !(w.channel c).isResolved
  | none => false

def isTickBlocked (w : World) : Bool :=
  w.strands.any fun s => (s.place matches .tick ..) && s.hold.isSome

/-- What can be told of a background call. That an actuator has stopped is not told while a
tick is blocked, even if the loop that was to stop is another one. -/
def told? (w : World) (answer : Option Answer) : Option Answer :=
  answer.filter fun a => !(a matches .actuatorStopped && w.isTickBlocked)

def collect (w : World) (number : Nat) : Answer × World :=
  match w.calls.lookup number with
  | none => (.missing .call, w)
  | some answer =>
    match w.told? answer with
    | some answer => (answer, { w with calls := w.calls.filter fun c => c.1 != number })
    | none => (.blockedCall number, w)

def startCall (w : World) (c : Call Body) : Answer × World :=
  let number := w.nextCall
  let w := { w with nextCall := number + 1, calls := w.calls ++ [(number, none)] }
  (w.addStrand (.caller number) [.call c]).settle.collect number

def lacks? (w : World) : Call Body → Option Missing
  | .shutdown pool | .shutdownNow pool =>
    if (w.pool? pool).isSome then none else some .pool
  | .periodicStop => if w.actuator?.isSome then none else some .actuator
  | _ => none

/-- A background call is numbered only when it has something to act on. -/
def background (w : World) (c : Call Body) : Answer × World :=
  match w.lacks? c with
  | some thing => (.missing thing, w)
  | none => w.startCall c

def awaited? (w : World) : Call Body → Option Nat
  | .join handle => w.handles.lookup handle
  | .result id => w.scheduler?.bind fun s => s.agenda.reader? id
  | _ => none

def callUnlessPending (w : World) (c : Call Body) : Answer × World :=
  if w.isUnresolved (w.awaited? c) then (.pending, w) else w.callAndSettle c

def droppedOr (panic : Option String) : Answer :=
  match panic with
  | some message => .panicked (some message)
  | none => .dropped

end World
end TaskEngine
