import Mathlib.Logic.Function.Basic
import TaskEngine.Proofs.Delayed.Entries
import TaskEngine.Proofs.Leads
import TaskEngine.Task.Ending

/-! A chronicle is the life of one delayed scheduler: its agenda, how far the timer of each
task has come, what goes on outside the lock, and what has happened so far. It goes on by
deeds, in any order. Aborting a timer may come too late: one that is awake goes on and finds
its id gone. -/

namespace TaskEngine

/-- How far the timer of a task has come, and the callable after it. -/
inductive TimerStage
  | asleep
  | awake
  | claimed
  | running
  /-- The callable has ended with this outcome, and its thread wants the lock. -/
  | ended (outcome : Outcome Product)
  -- all that is left to do is to let go of the producer's end of the channel
  | leaving
  | gone

inductive ReadStage
  | waiting
  | answered (answer : Except ScheduleError Product)
  | abandoned

inductive TaskCall
  | read (id : Nat) (reader : Option Nat) (stage : ReadStage)
  | cancel (id : Nat) (wasPending : Bool) (result : Cancellation)

namespace TaskCall

def answer (id : Nat) (outcome : Outcome Product) : Except ScheduleError Product :=
  outcome.mapError (ScheduleError.ofTask id)

/-- Does the call get the outcome of task `id`, or cancel it? An outcome is a value or the
task's own panic. -/
def wins (id : Nat) : TaskCall → Bool
  | .read i _ (.answered (.ok _)) => i == id
  | .read i _ (.answered (.error (.task _))) => i == id
  | .cancel i _ result => i == id && result.succeeded
  | _ => false

def Loses : TaskCall → Prop
  | .read id _ (.answered answer) => answer = .error (.notFound id)
  | .read _ _ _ => True
  | .cancel _ _ result => result.succeeded = false

end TaskCall

def Cancellation.aborted (id : Nat) : Cancellation → List Nat
  | .found _ (some .waiting) => [id]
  | _ => []

/-- The life of a scheduler so far. The `aborted` timers were told to end before their time, the
`forgotten` ids were pending when the scheduler was shut down, and `captured` are the callables that
have ended, each with its outcome. -/
structure Chronicle where
  agenda : Agenda Nat := {}
  stage : Nat → TimerStage := fun _ => .gone
  channels : Nat → Channel Product := fun _ => .empty
  calls : List TaskCall := []
  aborted : List Nat := []
  accepted : List Nat := []
  forgotten : List Nat := []
  claimed : List Nat := []
  begun : List Nat := []
  captured : List (Nat × Outcome Product) := []

namespace Chronicle

def dropPanics (s : Chronicle) (armed : Bool) (channel : Nat) : Bool :=
  ((s.channels channel).dropReader.2.bind (dropPanic armed)).isSome

open Function in
def channelsWithout (s : Chronicle) (id : Nat) : Nat → Channel Product :=
  match s.agenda.reader? id with
  | some c => update s.channels c (s.channels c).dropReader.1
  | none => s.channels

inductive Deed
  | schedule
  | wake (id : Nat)
  | abort (id : Nat)
  | claim (id : Nat)
  | start (id : Nat)
  | finish (id : Nat) (ending : Ending Product)
  | store (id : Nat)
  | release (id : Nat)
  | read (id : Nat)
  | receive (call : Nat)
  | giveUp (call : Nat)
  | cancel (id : Nat)
  | shutdown

open Function in
inductive Step (s : Chronicle) : Deed → Chronicle → Prop
  | refuse (h : s.agenda.schedule s.agenda.nextId = none) : Step s .schedule s
  | accept {id agenda} (h : s.agenda.schedule s.agenda.nextId = some (id, agenda)) :
      Step s .schedule
        { s with
          agenda
          stage := update s.stage id .asleep
          channels := update s.channels id .empty
          accepted := s.accepted ++ [id] }
  | wake {id} (hs : s.stage id = .asleep) :
      Step s (.wake id) { s with stage := update s.stage id .awake }
  | abort {id} (hs : s.stage id = .asleep) (ha : id ∈ s.aborted) :
      Step s (.abort id) { s with stage := update s.stage id .leaving }
  | claim {id agenda} (hs : s.stage id = .awake) (h : s.agenda.claim id = some agenda) :
      Step s (.claim id)
        { s with
          agenda
          stage := update s.stage id .claimed
          claimed := s.claimed ++ [id] }
  | skip {id} (hs : s.stage id = .awake) (h : s.agenda.claim id = none) :
      Step s (.claim id) { s with stage := update s.stage id .leaving }
  | start {id} (hs : s.stage id = .claimed) :
      Step s (.start id)
        { s with stage := update s.stage id .running, begun := s.begun ++ [id] }
  | capture {id ending outcome} (hs : s.stage id = .running)
      (h : ending.capture = some outcome) :
      Step s (.finish id ending)
        { s with
          stage := update s.stage id (.ended outcome)
          captured := s.captured ++ [(id, outcome)] }
  | escape {id ending} (hs : s.stage id = .running) (h : ending.capture = none) :
      Step s (.finish id ending) { s with stage := update s.stage id .leaving }
  | store {id outcome phase agenda} (hs : s.stage id = .ended outcome)
      (h : s.agenda.takePending id = (some phase, agenda)) :
      Step s (.store id)
        { s with
          agenda
          stage := update s.stage id .gone
          channels := update s.channels id ((s.channels id).complete outcome).1 }
  | discard {id outcome agenda} (hs : s.stage id = .ended outcome)
      (h : s.agenda.takePending id = (none, agenda)) :
      Step s (.store id) { s with agenda, stage := update s.stage id .leaving }
  | release {id} (hs : s.stage id = .leaving) :
      Step s (.release id)
        { s with
          stage := update s.stage id .gone
          channels := update s.channels id (s.channels id).dropProducer }
  | readNothing {id agenda} (h : s.agenda.takeReader id = (none, agenda)) :
      Step s (.read id)
        { s with
          agenda
          calls := s.calls ++ [.read id none (.answered (.error (.notFound id)))] }
  | read {id c agenda} (h : s.agenda.takeReader id = (some c, agenda)) :
      Step s (.read id) { s with agenda, calls := s.calls ++ [.read id (some c) .waiting] }
  | receive {before after id c outcome channel}
      (hc : s.calls = before ++ .read id (some c) .waiting :: after)
      (h : (s.channels c).join = some (outcome, channel)) :
      Step s (.receive before.length)
        { s with
          channels := update s.channels c channel
          calls := before ++
            .read id (some c) (.answered (TaskCall.answer id outcome)) :: after }
  | giveUp {before after id c} (hc : s.calls = before ++ .read id (some c) .waiting :: after) :
      Step s (.giveUp before.length)
        { s with
          channels := update s.channels c (s.channels c).dropReader.1
          calls := before ++ .read id (some c) .abandoned :: after }
  | cancel {id armed result agenda}
      (h : s.agenda.cancel (s.dropPanics armed) id = (result, agenda)) :
      Step s (.cancel id)
        { s with
          agenda
          channels := s.channelsWithout id
          aborted := s.aborted ++ result.aborted id
          calls := s.calls ++ [.cancel id (s.agenda.isPending id) result] }
  | shutdownAgain (h : s.agenda.shutdown = none) : Step s .shutdown s
  | shutdown {pending agenda} (h : s.agenda.shutdown = some (pending, agenda)) :
      Step s .shutdown
        { s with
          agenda
          aborted := s.aborted ++ (pending.filter fun e => e.2 = .waiting).map Prod.fst
          forgotten := s.forgotten ++ s.accepted.filter s.agenda.isPending }

inductive Reachable : Chronicle → Prop
  | start : Reachable {}
  | next {s s' : Chronicle} {d : Deed} (h : Reachable s) (st : Step s d s') : Reachable s'

theorem Reachable.leads_self {s : Chronicle} (_ : Reachable s) : Leads Step s s := .refl s

theorem Reachable.leads {s t : Chronicle} (h : Reachable s) (hl : Leads Step s t) : Reachable t :=
  hl.preserve .next h

end Chronicle
end TaskEngine
