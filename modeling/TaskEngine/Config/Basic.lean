import TaskEngine.Duration
import TaskEngine.Error

/-! The settings of a worker pool and of a delayed scheduler, their defaults, and the order
in which the sizes of a pool are checked. -/

namespace TaskEngine

structure PoolConfig where
  coreThreads : UInt64 := 4
  maxThreads : UInt64 := 8
  queueCapacity : UInt64 := 1024
  idleTimeout : Duration := .ofMillis 60000
  threadName : String := "taskpool-worker"
  deriving DecidableEq, Inhabited

namespace PoolConfig

def fault? (c : PoolConfig) : Option ConfigFault :=
  if c.coreThreads = 0 then some .noCoreThreads
  else if c.maxThreads < c.coreThreads then some .maxBelowCore
  else if c.queueCapacity = 0 then some .noCapacity
  else none

def validate (c : PoolConfig) : Except InvalidConfig Unit :=
  match c.fault? with
  | some fault => .error ⟨fault.reason⟩
  | none => .ok ()

theorem validate_eq_ok_iff (c : PoolConfig) :
    c.validate = .ok () ↔
      c.coreThreads ≠ 0 ∧ c.coreThreads ≤ c.maxThreads ∧ c.queueCapacity ≠ 0 := by
  rw [← UInt64.not_lt]
  by_cases hcore : c.coreThreads = 0
  · simp [validate, fault?, hcore]
  by_cases hmax : c.maxThreads < c.coreThreads
  · simp [validate, fault?, hcore, hmax]
  by_cases hcapacity : c.queueCapacity = 0
  · simp [validate, fault?, hcore, hmax, hcapacity]
  · simp only [validate, fault?, hcore, hmax, hcapacity, if_false, ne_eq, not_false_eq_true,
      and_self]

end PoolConfig

structure TimerConfig where
  timerThreads : UInt64 := 1
  threadName : String := "taskpool-timer"
  deriving DecidableEq, Inhabited

namespace TimerConfig

/-- Sets the number of timer threads, of which there is at least one. -/
def withTimerThreads (c : TimerConfig) (n : UInt64) : TimerConfig :=
  { c with timerThreads := if n = 0 then 1 else n }

end TimerConfig
end TaskEngine
