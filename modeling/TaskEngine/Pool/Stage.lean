/-! A pool runs, then drains, then has stopped, and never goes back. -/

namespace TaskEngine

inductive PoolStage
  | running | draining | stopped
  deriving DecidableEq, Inhabited

def PoolStage.name : PoolStage → String
  | .running => "running"
  | .draining => "draining"
  | .stopped => "stopped"

end TaskEngine
