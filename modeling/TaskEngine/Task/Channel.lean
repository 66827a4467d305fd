import TaskEngine.Error

/-! One-shot channels. The producer acts once: it completes the channel or goes away. The
reader may ask any number of times, and reads at most once. -/

namespace TaskEngine

abbrev Outcome (α : Type) := Except TaskFailure α

inductive Channel (α : Type)
  | empty
  | ready (outcome : Outcome α)
  /-- Nothing is left to read. -/
  | closed
  | abandoned

namespace Channel

variable {α : Type}

/-- The producer hands over its outcome; one that cannot be read any more comes back. -/
def complete (c : Channel α) (outcome : Outcome α) : Channel α × Option (Outcome α) :=
  match c with
  | .empty => (.ready outcome, none)
  | c => (c, some outcome)

def dropProducer : Channel α → Channel α
  | .empty => .closed
  | c => c

def dropReader : Channel α → Channel α × Option (Outcome α)
  | .ready outcome => (.abandoned, some outcome)
  | _ => (.abandoned, none)

/-- A waiting read: none as long as it has to wait. -/
def join : Channel α → Option (Outcome α × Channel α)
  | .empty => none
  | .ready outcome => some (outcome, .closed)
  | .closed => some (.error .discarded, .closed)
  | .abandoned => some (.error .discarded, .abandoned)

/-- A read that does not wait: the outcome, or the channel back as it was. -/
def tryJoin : Channel α → Except (Channel α) (Outcome α × Channel α)
  | .ready outcome => .ok (outcome, .closed)
  | .empty => .error .empty
  | .closed => .ok (.error .discarded, .closed)
  | .abandoned => .ok (.error .discarded, .abandoned)

def poll (c : Channel α) : Option (Outcome α) × Channel α :=
  match c with
  | .ready outcome => (some outcome, .closed)
  | .empty => (none, .empty)
  | c => (some (.error .discarded), c)

def isResolved : Channel α → Bool
  | .empty => false
  | _ => true

@[simp] theorem join_eq_none_iff (c : Channel α) : c.join = none ↔ c = .empty := by
  cases c <;> simp [join]

@[simp] theorem complete_empty (outcome : Outcome α) :
    (empty : Channel α).complete outcome = (.ready outcome, none) := rfl

@[simp] theorem complete_ne_empty (c : Channel α) (outcome : Outcome α) :
    (c.complete outcome).1 ≠ .empty := by
  cases c <;> simp [complete]

@[simp] theorem dropProducer_ne_empty (c : Channel α) : c.dropProducer ≠ .empty := by
  cases c <;> simp [dropProducer]

@[simp] theorem dropReader_fst (c : Channel α) : c.dropReader.1 = .abandoned := by
  cases c <;> rfl

end Channel
end TaskEngine
