import TaskEngine.Scenario.Caller

/-! Steps on the delayed scheduler and its clock, and reads of results through futures. -/

namespace TaskEngine
namespace World

/-- Waiting inside an event loop panics, and the result is lost. -/
def resultInAsync (w : World) (id : Nat) : Answer × World :=
  w.withScheduler fun s =>
    if w.isUnresolved (s.agenda.reader? id) then (.pending, w) else
    let (reader, agenda) := s.agenda.takeReader id
    let w := w.setAgenda s agenda
    match reader with
    | none => (.result (.error (.notFound id)), w)
    | some c => (.panicked none, (w.dropReader c).2)

def forgetFuture (w : World) (name : String) : World :=
  { w with futures := withoutName name w.futures }

def dropClaim (w : World) (future : ResultFuture) : Option String × World :=
  match future.claimed with
  | some c => w.dropReader c
  | none => (none, w)

def startFuture (w : World) (name : String) (id : Nat) : Answer × World :=
  w.withScheduler fun _ =>
    let old := w.futures.lookup name
    let w := { w with futures := withoutName name w.futures ++ [(name, { id })] }
    match old with
    | some future =>
      match w.dropClaim future with
      | (some message, w) => (.panicked (some message), w)
      | (none, w) => (.done, w)
    | none => (.done, w)

def pollClaim (w : World) (name : String) (id c : Nat) : Answer × World :=
  match (w.channel c).poll with
  | (some outcome, channel) =>
    (resultAnswer id outcome, (w.setChannel c channel).forgetFuture name)
  | (none, channel) =>
    (.pending,
      { w.setChannel c channel with
        futures := w.futures.map fun f => if f.1 = name then (name, ⟨id, some c⟩) else f })

def pollFuture (w : World) (name : String) : Answer × World :=
  match w.futures.lookup name with
  | none => (.missing .future, w)
  | some ⟨id, some c⟩ => w.pollClaim name id c
  | some ⟨id, none⟩ =>
    w.withScheduler fun s =>
      let (reader, agenda) := s.agenda.takeReader id
      let w := w.setAgenda s agenda
      match reader with
      | none => (.result (.error (.notFound id)), w.forgetFuture name)
      | some c => w.pollClaim name id c

def dropFuture (w : World) (name : String) : Answer × World :=
  match w.futures.lookup name with
  | none => (.missing .future, w)
  | some future =>
    let (panic, w) := (w.forgetFuture name).dropClaim future
    (droppedOr panic, w)

def dropReaders (w : World) (channels : List Nat) : Option String × World :=
  channels.foldl (fun (panic, w) c =>
    let (next, w) := w.dropReader c
    (panic <|> next, w)) (none, w)

def dropFutures (w : World) : Option String × World :=
  let (panic, w) := w.dropReaders (w.futures.filterMap fun f => f.2.claimed)
  (panic, { w with futures := [] })

/-- Drops the scheduler. Results that nobody can take any more are dropped with it, unless a
timer or a callable still keeps the agenda. -/
def releaseScheduler (w : World) (s : Scheduler) : Answer × World :=
  let isKept := !s.timers.isEmpty || !s.running.isEmpty
  let unread := if isKept then [] else s.agenda.readers.map Prod.snd
  let (panic, w) := (w.shutdownScheduler .main s).dropReaders unread
  let w :=
    match w.schedulerByKey? s.key with
    | some s => w.setScheduler { s with dropped := true }
    | none => w
  (droppedOr panic, w)

/-- Drops the futures and then the scheduler, which is left alone if a future panics. -/
def dropScheduler (w : World) : Answer × World :=
  w.withScheduler fun s =>
    match w.dropFutures with
    | (some message, w) => (.panicked (some message), w)
    | (none, w) => w.releaseScheduler s

/-- A scheduler that was there before is dropped, which may panic. -/
def createScheduler (w : World) (clock : ClockKind) : Answer × World :=
  let (answer, w) := w.dropScheduler
  let w := { w with schedulers := w.schedulers ++ [{ key := w.schedulers.length, clock }] }
  match answer with
  | .panicked message => (.panicked message, w)
  | _ => (.done, w)

def fates (w : World) : Answer := .fates ((w.latestScheduler?.map Scheduler.fates).getD [])

def advance (w : World) (millis : Nat) : Answer × World :=
  match w.scheduler? with
  | some s =>
    match s.clock with
    | .virtual => (.done, w.setScheduler { s with now := s.now + millis })
    | .real => (.done, w)
  | none => (.done, w)

end World
end TaskEngine
