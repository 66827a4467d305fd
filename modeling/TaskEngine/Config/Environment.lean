import TaskEngine.Config.Basic
import TaskEngine.Text.Decimal

/-! Settings from the environment. A variable that is unset, is not UTF-8, or does not hold
what its setting needs leaves that setting at its default and disturbs no other. -/

namespace TaskEngine

/-- What each variable is set to; a variable that is not listed is unset. -/
structure Environment where
  assignments : List (String × ByteArray) := []

namespace Environment

def ofList (assignments : List (String × ByteArray)) : Environment := ⟨assignments⟩

/-- The bytes of a variable; a later setting of the same name wins. -/
def bytes? (env : Environment) (name : String) : Option ByteArray :=
  env.assignments.reverse.lookup name

def text? (env : Environment) (name : String) : Option String :=
  (env.bytes? name).bind String.fromUTF8?

def count? (env : Environment) (name : String) : Option UInt64 :=
  (env.text? name).bind fun s => Text.unsigned? s.toList

end Environment

namespace PoolConfig

def ofEnvironment (env : Environment) : PoolConfig :=
  let defaults : PoolConfig := {}
  { coreThreads := (env.count? "TASKPOOL_CORE_THREADS").getD defaults.coreThreads
    maxThreads := (env.count? "TASKPOOL_MAX_THREADS").getD defaults.maxThreads
    queueCapacity := (env.count? "TASKPOOL_QUEUE_CAPACITY").getD defaults.queueCapacity
    idleTimeout :=
      ((env.count? "TASKPOOL_IDLE_TIMEOUT_MS").map Duration.ofMillis).getD defaults.idleTimeout
    threadName := (env.text? "TASKPOOL_THREAD_NAME").getD defaults.threadName }

end PoolConfig

namespace TimerConfig

def ofEnvironment (env : Environment) : TimerConfig :=
  let defaults : TimerConfig := {}
  { defaults with
    timerThreads := (env.count? "TASKPOOL_TIMER_THREADS").getD defaults.timerThreads }

end TimerConfig
end TaskEngine
