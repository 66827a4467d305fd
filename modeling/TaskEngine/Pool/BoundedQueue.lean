/-! A first-in, first-out queue that holds at most `capacity` items. A push onto a full
queue hands the item back and changes nothing. -/

namespace TaskEngine

/-- The refusal of a push, with the item that was not taken. -/
structure PushRefused (α : Type) where
  item : α

namespace PushRefused

variable {α : Type}

def message (_ : PushRefused α) : String := "task queue is full"

def debugText (_ : PushRefused α) : String := "QueueFull(..)"

end PushRefused

structure BoundedQueue (α : Type) where
  capacity : Nat
  items : List α
  bounded : items.length ≤ capacity

namespace BoundedQueue

variable {α : Type}

def empty (capacity : Nat) : BoundedQueue α := ⟨capacity, [], Nat.zero_le _⟩

def size (q : BoundedQueue α) : Nat := q.items.length

def isEmpty (q : BoundedQueue α) : Bool := q.items.isEmpty

def isFull (q : BoundedQueue α) : Bool := decide (q.capacity ≤ q.size)

/-- Appends an item, or hands it back when the queue is full. -/
def push (q : BoundedQueue α) (a : α) : Except (PushRefused α) (BoundedQueue α) :=
  if h : q.size < q.capacity then
    .ok ⟨q.capacity, q.items ++ [a], by simp only [List.length_append]; exact h⟩
  else .error ⟨a⟩

def pop (q : BoundedQueue α) : Option (α × BoundedQueue α) :=
  match q with
  | ⟨_, [], _⟩ => none
  | ⟨capacity, a :: rest, bounded⟩ =>
    some (a, ⟨capacity, rest, by simp at bounded; omega⟩)

/-- Every item, oldest first, and the queue left empty. -/
def drain (q : BoundedQueue α) : List α × BoundedQueue α := (q.items, empty q.capacity)

@[simp] theorem items_empty (capacity : Nat) : (empty capacity : BoundedQueue α).items = [] := rfl

@[simp] theorem capacity_empty (capacity : Nat) :
    (empty capacity : BoundedQueue α).capacity = capacity := rfl

theorem size_le_capacity (q : BoundedQueue α) : q.size ≤ q.capacity := q.bounded

theorem isEmpty_iff (q : BoundedQueue α) : q.isEmpty = true ↔ q.size = 0 := by
  simp [isEmpty, size]

theorem isFull_iff (q : BoundedQueue α) : q.isFull = true ↔ q.size = q.capacity := by
  have := q.size_le_capacity
  simp only [isFull, decide_eq_true_eq]
  omega

theorem push_of_lt {q : BoundedQueue α} (a : α) (h : q.size < q.capacity) :
    ∃ q', q.push a = .ok q' ∧ q'.items = q.items ++ [a] ∧ q'.capacity = q.capacity :=
  ⟨_, dif_pos h, rfl, rfl⟩

theorem push_of_full {q : BoundedQueue α} (a : α) (h : q.capacity ≤ q.size) :
    q.push a = .error ⟨a⟩ :=
  dif_neg (Nat.not_lt.mpr h)

@[simp] theorem pop_eq_none_iff (q : BoundedQueue α) : q.pop = none ↔ q.items = [] := by
  rcases q with ⟨capacity, _ | ⟨a, rest⟩, bounded⟩ <;> simp [pop]

theorem items_of_pop {q q' : BoundedQueue α} {a : α} (h : q.pop = some (a, q')) :
    q.items = a :: q'.items ∧ q'.capacity = q.capacity := by
  rcases q with ⟨capacity, _ | ⟨b, rest⟩, bounded⟩
  · simp [pop] at h
  · simp only [pop, Option.some.injEq, Prod.mk.injEq] at h
    obtain ⟨rfl, rfl⟩ := h
    exact ⟨rfl, rfl⟩

theorem pop_of_items {q : BoundedQueue α} {a : α} {rest : List α} (h : q.items = a :: rest) :
    ∃ q', q.pop = some (a, q') ∧ q'.items = rest := by
  rcases q with ⟨capacity, _ | ⟨b, rest'⟩, bounded⟩
  · exact nomatch h
  · obtain ⟨rfl, rfl⟩ := List.cons.inj h
    exact ⟨_, rfl, rfl⟩

@[simp] theorem drain_items (q : BoundedQueue α) : q.drain.1 = q.items := rfl

@[simp] theorem drain_queue (q : BoundedQueue α) : q.drain.2 = empty q.capacity := rfl

end BoundedQueue
end TaskEngine
