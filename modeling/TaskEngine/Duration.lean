/-! Spans of time: whole numbers of nanoseconds whose seconds fit 64 bits. Settings and logs
speak of milliseconds, and only the low 64 bits of a millisecond count are ever written. -/

namespace TaskEngine

structure Duration where
  nanoseconds : Nat
  bounded : nanoseconds < UInt64.size * 1_000_000_000
  deriving DecidableEq

namespace Duration

def secs (d : Duration) : Nat := d.nanoseconds / 1_000_000_000

def subsecNanos (d : Duration) : Nat := d.nanoseconds % 1_000_000_000

def millis (d : Duration) : Nat := d.nanoseconds / 1_000_000

/-- Whole milliseconds, rounded up: the first millisecond at which the span has passed. -/
def ceilMillis (d : Duration) : Nat := (d.nanoseconds + 999_999) / 1_000_000

def millis64 (d : Duration) : UInt64 := UInt64.ofNat d.millis

def zero : Duration := ⟨0, by decide⟩

def ofMillis (n : UInt64) : Duration :=
  ⟨n.toNat * 1_000_000, by have := n.toNat_lt; simp only [UInt64.size]; omega⟩

def ofSecs (n : UInt64) : Duration :=
  ⟨n.toNat * 1_000_000_000, by have := n.toNat_lt; simp only [UInt64.size]; omega⟩

/-- Nanoseconds from a full second on carry into the seconds, which may then not fit. -/
def ofParts? (secs nanos : Nat) : Option Duration :=
  if h : secs * 1_000_000_000 + nanos < UInt64.size * 1_000_000_000 then some ⟨_, h⟩ else none

def isZero (d : Duration) : Bool := d.nanoseconds == 0

instance : Inhabited Duration := ⟨zero⟩

@[simp] theorem millis_ofMillis (n : UInt64) : (ofMillis n).millis = n.toNat := by
  simp [millis, ofMillis]

@[simp] theorem millis64_ofMillis (n : UInt64) : (ofMillis n).millis64 = n := by
  simp [millis64]

theorem secs_lt (d : Duration) : d.secs < UInt64.size := by
  have := d.bounded
  unfold secs
  omega

theorem subsecNanos_lt (d : Duration) : d.subsecNanos < 1_000_000_000 :=
  Nat.mod_lt _ (by decide)

theorem secs_subsecNanos (d : Duration) :
    d.secs * 1_000_000_000 + d.subsecNanos = d.nanoseconds := by
  unfold secs subsecNanos
  omega

end Duration
end TaskEngine
