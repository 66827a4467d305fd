import TaskEngine.Periodic.Actuator

/-! A course is the life of one periodic actuator: its loops, the stops in progress, and
what has cleared the running flag since the newest loop was started. Starts and stops are
called from anywhere, also from inside a tick, which then lasts until the call has returned.
-/

namespace TaskEngine

/-- What has cleared the running flag: a loop on its way out, the stop that has waited for a loop,
or a start for which no thread could be created. -/
inductive Clearing
  | left (loop : Nat)
  | joined (loop : Nat)
  | failed
  deriving DecidableEq

def Clearing.loop? : Clearing → Option Nat
  | .left loop | .joined loop => some loop
  | .failed => none

structure StopCall where
  -- the loop in whose tick the call is made, if in any
  origin : Option Nat
  loop : Nat

structure Course where
  actuator : Actuator
  stops : List StopCall := []
  cleared : List Clearing := []
  -- was an earlier loop or stop still there when the newest loop was started?
  overlapped : Bool := false

namespace Course

def IsFree (s : Course) (loop : Nat) : Prop := ∀ stop ∈ s.stops, stop.origin ≠ some loop

def CanCall (s : Course) : Option Nat → Prop
  | none => True
  | some id => (∃ l ∈ s.actuator.loops, l.id = id ∧ l.phase = .ticking) ∧ s.IsFree id

inductive Deed
  | start (origin : Option Nat) (now : Nat)
  | stop (origin : Option Nat)
  | confirm (call : Nat)
  | beginTick (loop now : Nat)
  | endTick (loop : Nat)
  | leave (loop : Nat)
  | die (loop : Nat)

inductive Step (s : Course) : Deed → Course → Prop
  | refuse {origin now error} (ho : s.CanCall origin) (h : s.actuator.start now = .error error) :
      Step s (.start origin now) s
  | start {origin now actuator} (ho : s.CanCall origin) (h : s.actuator.start now = .ok actuator) :
      Step s (.start origin now)
        { s with
          actuator
          cleared := []
          overlapped := !s.actuator.loops.isEmpty || !s.stops.isEmpty }
  | failStart {origin now} (ho : s.CanCall origin) (ha : s.actuator.active = none) :
      Step s (.start origin now)
        { s with
          actuator := { s.actuator with running := false }
          cleared := s.cleared ++ [.failed] }
  | stopNothing {origin} (ho : s.CanCall origin) (h : s.actuator.requestStop = none) :
      Step s (.stop origin) s
  | stopOwn {id actuator} (ho : s.CanCall (some id))
      (h : s.actuator.requestStop = some (id, actuator)) :
      Step s (.stop (some id)) { s with actuator }
  | stop {origin id actuator} (ho : s.CanCall origin) (hne : origin ≠ some id)
      (h : s.actuator.requestStop = some (id, actuator)) :
      Step s (.stop origin) { s with actuator, stops := s.stops ++ [⟨origin, id⟩] }
  | confirm {before call after} (hc : s.stops = before ++ call :: after)
      (hgone : s.actuator.isLive call.loop = false) :
      Step s (.confirm before.length)
        { s with
          actuator := s.actuator.confirmStopped
          stops := before ++ after
          cleared := s.cleared ++ [.joined call.loop] }
  | beginTick {l now} (hl : l ∈ s.actuator.loops) (hs : l.phase = .sleeping) (hd : l.due ≤ now) :
      Step s (.beginTick l.id now) { s with actuator := s.actuator.beginTick l.id now }
  | endTick {l} (hl : l ∈ s.actuator.loops) (ht : l.phase = .ticking) (hf : s.IsFree l.id) :
      Step s (.endTick l.id) { s with actuator := s.actuator.endTick l.id }
  | leave {l} (hl : l ∈ s.actuator.loops) (hs : l.phase = .sleeping)
      (ht : l.stopRequested = true) :
      Step s (.leave l.id)
        { s with
          actuator := s.actuator.leave l.id
          cleared := s.cleared ++ [.left l.id] }
  | die {l} (hl : l ∈ s.actuator.loops) (hf : s.IsFree l.id) :
      Step s (.die l.id) { s with actuator := s.actuator.die l.id }

inductive Reachable : Course → Prop
  | create {interval actuator} (h : Actuator.create interval = .ok actuator) :
      Reachable { actuator }
  | next {s s' : Course} {d : Deed} (h : Reachable s) (st : Step s d s') : Reachable s'

def idle (interval : Duration) : Course := { actuator := { interval } }

theorem Reachable.idle {interval : Duration} (h : interval.isZero = false) :
    Reachable (idle interval) :=
  have hc : Actuator.create interval = .ok { interval } := by simp [Actuator.create, h]
  .create hc

/-- No call is in progress, and every loop that was told to end has ended. -/
structure Quiet (s : Course) : Prop where
  stops : s.stops = []
  told : ∀ l ∈ s.actuator.loops, l.stopRequested = false

/-- Is there a live loop that has not been told to end? -/
def Ticks (s : Course) : Prop := ∃ l ∈ s.actuator.loops, l.stopRequested = false

/-- The loop that ticks was started before an earlier one had left, or before the stop of an
earlier one had returned, and has had its flag cleared by that. -/
def Overtaken (s : Course) : Prop :=
  ∃ l ∈ s.actuator.loops, l.stopRequested = false ∧
    ∃ earlier < l.id, .left earlier ∈ s.cleared ∨ .joined earlier ∈ s.cleared

/-- A panic has killed the newest loop, and nothing has cleared the flag since its start. -/
def Forsaken (s : Course) : Prop :=
  ∃ id ∈ s.actuator.dead, id + 1 = s.actuator.nextLoop ∧ s.cleared = []

end Course
end TaskEngine
