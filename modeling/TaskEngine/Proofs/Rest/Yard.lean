import Mathlib.Logic.Relation
import TaskEngine.Proofs.Pool.Roster
import TaskEngine.Proofs.Rest.Bodies

/-! Several pools and their tasks, and the gates that hold these tasks up. After a command
workers, tasks, notifications and calls move by themselves, in any order, until nothing can
move any more. A worker may also wake up without a reason, any number of times, and this is
not counted as a move. -/

namespace TaskEngine

open Function

/-- A pool with what its tasks have still to do, by their channels. -/
structure Workshop where
  config : PoolConfig
  session : Session
  todo : Nat → Body

structure Workshop.View where
  stage : PoolStage
  accepting : Bool
  active : Nat
  idle : Nat
  queued : Nat
  tally : Tally
  handles : List (Nat × Option (Outcome Product))

namespace Workshop

variable (gates : List String) (w : Workshop)

def start (c : PoolConfig) : Workshop :=
  { config := c, session := .start c, todo := fun _ => [] }

def view : View where
  stage := w.session.pool.stage
  accepting := w.session.pool.isAccepting
  active := w.session.pool.active
  idle := w.session.pool.idle
  queued := w.session.pool.queue.size
  tally := w.session.pool.tally
  handles := w.session.accepted.map fun task =>
    (task.channel, (w.session.channels task.channel).join.map Prod.fst)

def IsShort : Prop := w.config.idleTimeout.nanoseconds ≤ World.shortTimeout.nanoseconds

/-- The deeds that need neither a command nor the action of a task. -/
def Allows : Session.Deed → Prop
  | .notify _ | .turn _ | .finish _ | .dropTask _ | .countDropped _ | .alert _ | .join _
  | .confirm _ => True
  | .wake _ timedOut => timedOut = true ∧ w.IsShort
  | .submit .. | .endTask .. | .shutdown _ | .shutdownNow _ | .skip _ | .read _
  | .dropHandle _ => False

inductive Move : Workshop → Prop
  | pool {d s} (hd : w.Allows d) (st : Session.Step w.session d s) : Move { w with session := s }
  | act {id task rest} (hr : w.session.IsRunning id task)
      (hb : (w.todo task.channel).beat? gates = some (.pass rest)) :
      Move { w with todo := update w.todo task.channel rest }
  | endTask {id task ending s} (hr : w.session.IsRunning id task)
      (hb : (w.todo task.channel).beat? gates = some (.ends ending))
      (st : Session.Step w.session (.endTask id ending) s) : Move { w with session := s }

def AtRest : Prop := ∀ w', ¬w.Move gates w'

/-- A worker wakes up without a reason. -/
inductive Stir : Workshop → Prop
  | wake {id s} (st : Session.Step w.session (.wake id false) s) : Stir { w with session := s }

end Workshop

inductive Request
  | submit (body : Body)
  | shutdown
  | shutdownNow

/-- What a request does at once. A thread can be created for every new worker. -/
inductive Workshop.Takes (w : Workshop) : Request → Workshop → Prop
  | submit {body s} (hb : body.Plain) (st : Session.Step w.session (.submit body true) s) :
      Takes w (.submit body)
        { w with session := s, todo := update w.todo w.session.submits body }
  | shutdown {s} (st : Session.Step w.session (.shutdown none) s) :
      Takes w .shutdown { w with session := s }
  | shutdownNow {s} (st : Session.Step w.session (.shutdownNow none) s) :
      Takes w .shutdownNow { w with session := s }

structure Yard where
  gates : List String := []
  shops : List Workshop := []

inductive Command
  | createPool (config : PoolConfig)
  | openGate (name : String)
  | request (pool : Nat) (request : Request)

namespace Yard

variable (y : Yard)

def view : List Workshop.View := y.shops.map Workshop.view

inductive Move : Yard → Prop
  | at {i w w'} (hw : y.shops[i]? = some w) (h : w.Move y.gates w') :
      Move { y with shops := y.shops.set i w' }

def AtRest : Prop := ∀ y', ¬y.Move y'

inductive Stir : Yard → Prop
  | at {i w w'} (hw : y.shops[i]? = some w) (h : w.Stir w') :
      Stir { y with shops := y.shops.set i w' }

inductive Obeys : Command → Yard → Prop
  | createPool {config} (hc : config.validate = .ok ()) :
      Obeys (.createPool config) { y with shops := y.shops ++ [.start config] }
  | openGate {name} : Obeys (.openGate name) { y with gates := name :: y.gates }
  | request {i r w w'} (hw : y.shops[i]? = some w) (h : w.Takes r w') :
      Obeys (.request i r) { y with shops := y.shops.set i w' }

/-- One of the states at rest that a yard can come to. -/
def Settles (y' : Yard) : Prop :=
  Relation.ReflTransGen (fun a b => a.Move b ∨ a.Stir b) y y' ∧ y'.AtRest

/-- One of the ways in which a script can go: the yard comes to rest after each command. -/
inductive Plays : List Command → Yard → Prop
  | nil : Plays [] {}
  | snoc {script y command m y'} (h : Plays script y) (ho : y.Obeys command m)
      (hs : m.Settles y') : Plays (script ++ [command]) y'

end Yard
end TaskEngine
