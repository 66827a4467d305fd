/-! What a delayed scheduler's lock guards: which ids are pending, and for which ids an
outcome can still be read. `κ` is the reader's end of a task's channel. Each operation is
one hold of the lock. -/

namespace TaskEngine

inductive PendingPhase
  | waiting | running
  deriving DecidableEq

structure Agenda (κ : Type) where
  nextId : Nat := 0
  pending : List (Nat × PendingPhase) := []
  readers : List (Nat × κ) := []
  stopped : Bool := false

/-- How a cancel ends: dropping the unread outcome panicked, or the id had a reader and was
pending, or not. -/
inductive Cancellation
  | panicked
  | found (hadReader : Bool) (phase : Option PendingPhase)
  deriving DecidableEq

def Cancellation.succeeded : Cancellation → Bool
  | .panicked => true
  | .found hadReader phase => hadReader || phase.isSome

namespace Agenda

variable {κ : Type}

def withoutId {β : Type} (id : Nat) (entries : List (Nat × β)) : List (Nat × β) :=
  entries.filter fun e => e.1 != id

def schedule (a : Agenda κ) (reader : κ) : Option (Nat × Agenda κ) :=
  if a.stopped then none
  else
    some (a.nextId,
      { a with
        nextId := a.nextId + 1
        pending := a.pending ++ [(a.nextId, .waiting)]
        readers := a.readers ++ [(a.nextId, reader)] })

def phase? (a : Agenda κ) (id : Nat) : Option PendingPhase := a.pending.lookup id

def reader? (a : Agenda κ) (id : Nat) : Option κ := a.readers.lookup id

def isPending (a : Agenda κ) (id : Nat) : Bool := (a.phase? id).isSome

def pendingCount (a : Agenda κ) : Nat := a.pending.length

def takeReader (a : Agenda κ) (id : Nat) : Option κ × Agenda κ :=
  (a.reader? id, { a with readers := withoutId id a.readers })

/-- Takes the pending entry out: the callable has ended, or never will. -/
def takePending (a : Agenda κ) (id : Nat) : Option PendingPhase × Agenda κ :=
  (a.phase? id, { a with pending := withoutId id a.pending })

/-- Forgets an id. The reader goes first, and an unread outcome with it; if dropping that
panics, the pending entry is not looked at any more. -/
def cancel (a : Agenda κ) (dropPanics : κ → Bool) (id : Nat) : Cancellation × Agenda κ :=
  let (reader, a) := a.takeReader id
  if reader.any dropPanics then (.panicked, a)
  else
    let (phase, a) := a.takePending id
    (.found reader.isSome phase, a)

/-- The time has come: a task that is still pending is handed over to run. -/
def claim (a : Agenda κ) (id : Nat) : Option (Agenda κ) :=
  if a.isPending id then
    some { a with pending := a.pending.map fun e => if e.1 = id then (id, .running) else e }
  else none

/-- Refuses further tasks and forgets the pending ones; none when that was done before. -/
def shutdown (a : Agenda κ) : Option (List (Nat × PendingPhase) × Agenda κ) :=
  if a.stopped then none else some (a.pending, { a with stopped := true, pending := [] })

end Agenda
end TaskEngine
