import TaskEngine.Duration

/-! The clock counts up from the start of the machine, a day before a scenario begins, and
ends at 2^63 seconds. Times are given as nanoseconds since the scenario began. -/

namespace TaskEngine
namespace Clock

def beginning : Nat := 86400 * 1_000_000_000

def ending : Nat := 9_223_372_036_854_775_808 * 1_000_000_000

def reaches (now : Nat) (d : Duration) : Bool :=
  decide (beginning + now + d.nanoseconds < ending)

def farFuture : Duration := .ofSecs (30 * 365 * 86400)

/-- The time from `now` on that is waited out for a delay. One that the clock cannot show the
end of is cut short. -/
def wait (now : Nat) (d : Duration) : Duration := if reaches now d then d else farFuture

end Clock
end TaskEngine
