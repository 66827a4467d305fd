import TaskEngine.Pool.BoundedQueue

/-! What has been asked of a queue, and what it has answered. From a new queue on, the
answers are those of a list that is kept below a bound. -/

namespace TaskEngine
namespace BoundedQueue

variable {α : Type}

inductive Request (α : Type)
  | push (item : α)
  | pop
  | drain

inductive Reply (α : Type)
  | taken
  | refused (item : α)
  | popped (item : Option α)
  | drained (items : List α)

def Request.brought : Request α → Reply α → List α
  | .push a, .taken => [a]
  | _, _ => []

def Reply.given : Reply α → List α
  | .popped item => item.toList
  | .drained items => items
  | _ => []

def serve (q : BoundedQueue α) : Request α → Reply α × BoundedQueue α
  | .push a =>
    match q.push a with
    | .ok q' => (.taken, q')
    | .error refusal => (.refused refusal.item, q)
  | .pop =>
    match q.pop with
    | some (a, q') => (.popped (some a), q')
    | none => (.popped none, q)
  | .drain => (.drained q.drain.1, q.drain.2)

/-- The same request to a list of at most `capacity` items. -/
def serveList (capacity : Nat) (items : List α) : Request α → Reply α × List α
  | .push a => if items.length = capacity then (.refused a, items) else (.taken, items ++ [a])
  | .pop => (.popped items.head?, items.tail)
  | .drain => (.drained items, [])

/-- Requests one after the other, each with its reply, and what is left at the end. -/
def history {σ : Type} (serve : σ → Request α → Reply α × σ) :
    σ → List (Request α) → List (Request α × Reply α) × σ
  | s, [] => ([], s)
  | s, r :: rs =>
    let (log, last) := history serve (serve s r).2 rs
    ((r, (serve s r).1) :: log, last)

theorem serve_push_of_full {q : BoundedQueue α} (a : α) (h : q.capacity ≤ q.size) :
    q.serve (.push a) = (.refused a, q) := by
  rw [serve, push_of_full a h]

theorem serve_push_of_lt {q : BoundedQueue α} (a : α) (h : q.size < q.capacity) :
    (q.serve (.push a)).1 = .taken ∧ (q.serve (.push a)).2.items = q.items ++ [a] ∧
      (q.serve (.push a)).2.capacity = q.capacity := by
  obtain ⟨q', hpush, hitems, hcapacity⟩ := push_of_lt a h
  rw [serve, hpush]
  exact ⟨rfl, hitems, hcapacity⟩

theorem serve_push_taken_iff (q : BoundedQueue α) (a : α) :
    (q.serve (.push a)).1 = .taken ↔ q.size < q.capacity := by
  refine ⟨fun htaken => Nat.lt_of_not_le fun hfull => ?_, fun hroom => (serve_push_of_lt a hroom).1⟩
  rw [serve_push_of_full a hfull] at htaken
  cases htaken

theorem serve_push_refused_iff (q : BoundedQueue α) (a : α) :
    q.serve (.push a) = (.refused a, q) ↔ q.size = q.capacity := by
  refine ⟨fun hrefused => ?_, fun hfull => serve_push_of_full a (Nat.le_of_eq hfull.symm)⟩
  refine Nat.le_antisymm q.size_le_capacity (Nat.le_of_not_lt fun hroom => ?_)
  rw [← serve_push_taken_iff q a, hrefused] at hroom
  cases hroom

@[simp] theorem serve_capacity (q : BoundedQueue α) (r : Request α) :
    (q.serve r).2.capacity = q.capacity := by
  cases r with
  | push a =>
    obtain hfull | hroom := Nat.lt_or_ge q.size q.capacity |>.symm
    · rw [serve_push_of_full a hfull]
    · exact (serve_push_of_lt a hroom).2.2
  | pop =>
    rw [serve]
    split
    · next hpop => exact (items_of_pop hpop).2
    · rfl
  | drain => rfl

theorem serve_eq_serveList (q : BoundedQueue α) (r : Request α) :
    ((q.serve r).1, (q.serve r).2.items) = serveList q.capacity q.items r := by
  cases r with
  | push a =>
    rw [serveList]
    split
    · next hfull => rw [serve_push_of_full a (Nat.le_of_eq hfull.symm)]
    · next hroom =>
      obtain ⟨htaken, hitems, -⟩ := serve_push_of_lt a (Nat.lt_of_le_of_ne q.size_le_capacity hroom)
      rw [htaken, hitems]
  | pop =>
    rw [serve, serveList]
    split
    · next hpop => rw [(items_of_pop hpop).1]; rfl
    · next hpop => rw [(pop_eq_none_iff q).mp hpop]; rfl
  | drain => rfl

theorem brought_serveList (capacity : Nat) (items : List α) (r : Request α) :
    items ++ r.brought (serveList capacity items r).1 =
      (serveList capacity items r).1.given ++ (serveList capacity items r).2 := by
  cases r with
  | push a =>
    rw [serveList]
    split
    · simp [Request.brought, Reply.given]
    · simp [Request.brought, Reply.given]
  | pop => cases items <;> simp [serveList, Request.brought, Reply.given]
  | drain => simp [serveList, Request.brought, Reply.given]

theorem history_capacity (q : BoundedQueue α) (rs : List (Request α)) :
    (history serve q rs).2.capacity = q.capacity := by
  induction rs generalizing q with
  | nil => rfl
  | cons r rs ih => exact (ih (q.serve r).2).trans (serve_capacity q r)

theorem history_eq_history_serveList (q : BoundedQueue α) (rs : List (Request α)) :
    ((history serve q rs).1, (history serve q rs).2.items) =
      history (serveList q.capacity) q.items rs := by
  induction rs generalizing q with
  | nil => rfl
  | cons r rs ih =>
    have hstep := serve_eq_serveList q r
    have hrest := ih (q.serve r).2
    rw [serve_capacity] at hrest
    rw [history, history, ← hstep, ← hrest]

theorem brought_history_serveList (capacity : Nat) (items : List α) (rs : List (Request α)) :
    items ++ (history (serveList capacity) items rs).1.flatMap (fun e => e.1.brought e.2) =
      (history (serveList capacity) items rs).1.flatMap (fun e => e.2.given) ++
        (history (serveList capacity) items rs).2 := by
  induction rs generalizing items with
  | nil => simp [history]
  | cons r rs ih =>
    have hstep := brought_serveList capacity items r
    have hrest := ih (serveList capacity items r).2
    simp only [history, List.flatMap_cons]
    rw [← List.append_assoc, hstep, List.append_assoc, hrest, List.append_assoc]

/-- From a new queue on, over any requests: the replies and the items are those of a list of at
most `capacity` items; the items given out, in order, and then those that are left are the
items taken in, in order; a push is refused exactly when there are `capacity` items, and then
hands its item back and changes nothing. There are never more items than that, and the queue
knows when there are as many, or none. -/
theorem history_of_bounded_list (capacity : Nat) (rs : List (Request α)) :
    let log := (history serve (empty capacity) rs).1
    let q := (history serve (empty capacity) rs).2
    (log, q.items) = history (serveList capacity) [] rs ∧
    log.flatMap (fun e => e.2.given) ++ q.items = log.flatMap (fun e => e.1.brought e.2) ∧
    (∀ a, q.serve (.push a) = (.refused a, q) ↔ q.size = capacity) ∧
    (∀ a, (q.serve (.push a)).1 = .taken ↔ q.size < capacity) ∧
    q.size ≤ capacity ∧ q.capacity = capacity ∧
    (q.isFull = true ↔ q.size = capacity) ∧ (q.isEmpty = true ↔ q.size = 0) := by
  intro log q
  have hlist : (log, q.items) = history (serveList capacity) [] rs :=
    history_eq_history_serveList (empty capacity) rs
  have hcapacity : q.capacity = capacity := history_capacity (empty capacity) rs
  have hflow := brought_history_serveList capacity [] rs
  rw [← hlist, List.nil_append] at hflow
  refine ⟨hlist, hflow.symm, fun a => ?_, fun a => ?_, ?_, hcapacity, ?_, q.isEmpty_iff⟩
  · rw [serve_push_refused_iff, hcapacity]
  · rw [serve_push_taken_iff, hcapacity]
  · exact hcapacity ▸ q.size_le_capacity
  · rw [isFull_iff, hcapacity]

end BoundedQueue
end TaskEngine
