import TaskEngine.Json.Value
import TaskEngine.Task.Channel

/-! A task returns a value or panics with a payload. Panics are captured as errors of the
task; only a payload whose own destructor panics gets past the capture and unwinds the
thread. A value may be fragile: dropping it unread panics, until it is disarmed. -/

namespace TaskEngine

inductive PanicPayload
  | text (message : String)
  | other
  | fragile (message : String)
  deriving DecidableEq

inductive Ending (α : Type)
  | returned (value : α)
  | panicked (payload : PanicPayload)

/-- The outcome of a task, or none when its panic escapes the capture. -/
def Ending.capture {α : Type} : Ending α → Option (Outcome α)
  | .returned value => some (.ok value)
  | .panicked (.text message) => some (.error (.panicked message))
  | .panicked .other => some (.error (.panicked "non-string panic payload"))
  | .panicked (.fragile _) => none

inductive Product
  | plain (value : Json)
  | fragile (message : String)
  deriving Inhabited

def dropPanic (armed : Bool) : Outcome Product → Option String
  | .ok (.fragile message) => if armed then some message else none
  | _ => none

inductive Conclusion
  | completed
  | panicked (error : TaskFailure)
  | unwound
  deriving DecidableEq

/-- Delivers what a pool's task ended with, and says how the task counts. A task whose
undelivered value panics when dropped counts as panicked with that message. -/
def conclude (armed : Bool) (ending : Ending Product) (channel : Channel Product) :
    Conclusion × Channel Product :=
  match ending.capture with
  | none => (.unwound, channel.dropProducer)
  | some outcome =>
    let (channel, undelivered) := channel.complete outcome
    match undelivered.bind (dropPanic armed), outcome with
    | some message, _ => (.panicked (.panicked message), channel)
    | none, .error error => (.panicked error, channel)
    | none, .ok _ => (.completed, channel)

end TaskEngine
