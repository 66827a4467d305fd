/-! What a pool has counted since it was started. A submission counts either as submitted or
as rejected; a submitted task is later counted at most once, as completed, panicked or
discarded. -/

namespace TaskEngine

structure Tally where
  submitted : Nat := 0
  rejected : Nat := 0
  completed : Nat := 0
  panicked : Nat := 0
  discarded : Nat := 0
  spawnedWorkers : Nat := 0
  retiredWorkers : Nat := 0
  deriving DecidableEq, Inhabited

namespace Tally

/-- Tasks that were accepted and not yet counted as ended; never below zero. -/
def outstanding (s : Tally) : Nat :=
  s.submitted - (s.completed + s.panicked + s.discarded)

def toFields (s : Tally) : List (String × Nat) :=
  [("submitted", s.submitted), ("rejected", s.rejected), ("completed", s.completed),
    ("panicked", s.panicked), ("discarded", s.discarded),
    ("spawned_workers", s.spawnedWorkers), ("retired_workers", s.retiredWorkers)]

end Tally
end TaskEngine
