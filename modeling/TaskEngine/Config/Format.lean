import TaskEngine.Config.Basic
import TaskEngine.Config.Record
import TaskEngine.Json.Writer

/-! The written form of settings: an object with their fields in declared order. Of the idle
timeout only the whole milliseconds are kept, and of these the low 64 bits. Reading checks
types and ranges but not whether the sizes make sense. -/

namespace TaskEngine

inductive PoolField
  | coreThreads | maxThreads | queueCapacity | idleTimeout | threadName
  deriving DecidableEq

namespace PoolConfig

def format : RecordFormat PoolField where
  title := "WorkerPoolConfig"
  fields := [.coreThreads, .maxThreads, .queueCapacity, .idleTimeout, .threadName]
  name
    | .coreThreads => "core_threads"
    | .maxThreads => "max_threads"
    | .queueCapacity => "queue_capacity"
    | .idleTimeout => "idle_timeout"
    | .threadName => "thread_name"
  kind
    | .coreThreads => .count
    | .maxThreads => .count
    | .queueCapacity => .count
    | .idleTimeout => .millis
    | .threadName => .text

/-- All fields are needed; the first one missing is reported. -/
def ofDraft (draft : format.Draft) : Except DecodeError PoolConfig := do
  let coreThreads ← draft.require .coreThreads
  let maxThreads ← draft.require .maxThreads
  let queueCapacity ← draft.require .queueCapacity
  let idleMillis ← draft.require .idleTimeout
  let threadName ← draft.require .threadName
  return { coreThreads, maxThreads, queueCapacity, idleTimeout := .ofMillis idleMillis, threadName }

def ofJson (j : Json) : Except DecodeError PoolConfig := format.ofJson ofDraft j

def ofText (text : String) : Except DecodeError PoolConfig := format.ofText ofDraft text

def toJson (c : PoolConfig) : Json :=
  .object
    [("core_threads", .ofUInt64 c.coreThreads), ("max_threads", .ofUInt64 c.maxThreads),
      ("queue_capacity", .ofUInt64 c.queueCapacity),
      ("idle_timeout", .ofUInt64 c.idleTimeout.millis64), ("thread_name", .string c.threadName)]

def toText (c : PoolConfig) : String := c.toJson.compact

end PoolConfig

inductive TimerField
  | timerThreads | threadName
  deriving DecidableEq

namespace TimerConfig

def format : RecordFormat TimerField where
  title := "SchedulerConfig"
  fields := [.timerThreads, .threadName]
  name
    | .timerThreads => "timer_threads"
    | .threadName => "thread_name"
  kind
    | .timerThreads => .count
    | .threadName => .text

def ofDraft (draft : format.Draft) : Except DecodeError TimerConfig := do
  let timerThreads ← draft.require .timerThreads
  let threadName ← draft.require .threadName
  return { timerThreads, threadName }

def ofJson (j : Json) : Except DecodeError TimerConfig := format.ofJson ofDraft j

def ofText (text : String) : Except DecodeError TimerConfig := format.ofText ofDraft text

def toJson (c : TimerConfig) : Json :=
  .object [("timer_threads", .ofUInt64 c.timerThreads), ("thread_name", .string c.threadName)]

def toText (c : TimerConfig) : String := c.toJson.compact

end TimerConfig
end TaskEngine
