/-! Looking up a key after an entry has been put in front or at the end of a list, or
replaced. -/

namespace TaskEngine

variable {α β : Type} [DecidableEq α]

theorem lookup_cons_ite (j : α) (e : α × β) (l : List (α × β)) :
    (e :: l).lookup j = if j = e.1 then some e.2 else l.lookup j := by
  rw [List.lookup_cons]
  by_cases h : j = e.1
  · simp [h]
  · rw [beq_eq_false_iff_ne.mpr h, if_neg h]

theorem lookup_replace (id j : α) (v : β) (l : List (α × β)) :
    (l.map fun e => if e.1 = id then (id, v) else e).lookup j =
      if j = id then (l.lookup id).map fun _ => v else l.lookup j := by
  induction l with
  | nil => simp
  | cons e l ih =>
    rw [List.map_cons, lookup_cons_ite, ih]
    by_cases hid : e.1 = id
    · by_cases hj : j = id <;> simp [hid, hj, lookup_cons_ite]
    · have hne : ¬id = e.1 := Ne.symm hid
      by_cases hj : j = id <;> simp [hid, hj, hne, lookup_cons_ite]

theorem lookup_snoc (id j : α) (v : β) (l : List (α × β)) :
    (l ++ [(id, v)]).lookup j = (l.lookup j).or (if j = id then some v else none) := by
  rw [List.lookup_append, lookup_cons_ite, List.lookup_nil]

end TaskEngine
