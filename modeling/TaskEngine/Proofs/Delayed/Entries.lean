import TaskEngine.Delayed.Agenda
import TaskEngine.Proofs.Lookup

/-! What one hold of a scheduler's lock does to the entries of an id: whether it is pending,
and which reader it has. A hold that is about one id leaves the others as they were. -/

namespace TaskEngine
namespace Agenda

theorem lookup_withoutId {β : Type} (id j : Nat) (l : List (Nat × β)) :
    (withoutId id l).lookup j = if j = id then none else l.lookup j := by
  induction l with
  | nil => simp [withoutId]
  | cons e l ih =>
    have htail : (withoutId id (e :: l)) =
        if e.1 = id then withoutId id l else e :: withoutId id l := by
      by_cases he : e.1 = id <;> simp [withoutId, he]
    rw [htail]
    split
    · next he =>
      rw [ih, lookup_cons_ite, he]
      split <;> rfl
    · next he =>
      rw [lookup_cons_ite, lookup_cons_ite, ih]
      split
      · next hj => rw [if_neg (hj ▸ he)]
      · rfl

variable {κ : Type} {a b : Agenda κ} {id j : Nat}

theorem isPending_iff : a.isPending id = true ↔ id ∈ a.pending.map Prod.fst := by
  rw [isPending, phase?, List.lookup_isSome_iff]
  simp

theorem isPending_iff_phase? : a.isPending id = true ↔ a.phase? id ≠ none :=
  Option.isSome_iff_ne_none

@[simp] theorem isPending_eq_false_iff : a.isPending id = false ↔ a.phase? id = none := by
  simp [isPending]

theorem eq_of_schedule {reader : κ} (h : a.schedule reader = some (id, b)) :
    a.stopped = false ∧ id = a.nextId ∧
      b = { a with
        nextId := a.nextId + 1
        pending := a.pending ++ [(a.nextId, .waiting)]
        readers := a.readers ++ [(a.nextId, reader)] } := by
  unfold schedule at h
  split at h
  · exact nomatch h
  · next hs =>
    obtain ⟨rfl, rfl⟩ := Prod.mk.inj (Option.some.inj h)
    exact ⟨by simpa using hs, rfl, rfl⟩

theorem phase?_schedule {reader : κ} (h : a.schedule reader = some (id, b)) :
    b.phase? j = (a.phase? j).or (if j = id then some .waiting else none) := by
  obtain ⟨_, rfl, rfl⟩ := eq_of_schedule h
  exact lookup_snoc a.nextId j .waiting a.pending

theorem reader?_schedule {reader : κ} (h : a.schedule reader = some (id, b)) :
    b.reader? j = (a.reader? j).or (if j = id then some reader else none) := by
  obtain ⟨_, rfl, rfl⟩ := eq_of_schedule h
  exact lookup_snoc a.nextId j reader a.readers

@[simp] theorem phase?_takeReader : (a.takeReader id).2.phase? j = a.phase? j := rfl

@[simp] theorem reader?_takeReader :
    (a.takeReader id).2.reader? j = if j = id then none else a.reader? j :=
  lookup_withoutId id j a.readers

@[simp] theorem reader?_takePending : (a.takePending id).2.reader? j = a.reader? j := rfl

@[simp] theorem phase?_takePending :
    (a.takePending id).2.phase? j = if j = id then none else a.phase? j :=
  lookup_withoutId id j a.pending

/-- A cancel takes the reader of the id out. Where dropping it panics, the pending entry stays. -/
theorem cancel_cases {dropPanics : κ → Bool} {result : Cancellation}
    (h : a.cancel dropPanics id = (result, b)) :
    (∃ c, a.reader? id = some c ∧ dropPanics c = true ∧ result = .panicked ∧
        b = (a.takeReader id).2) ∨
      result = .found (a.reader? id).isSome (a.phase? id) ∧
        b = ((a.takeReader id).2.takePending id).2 := by
  have hcancel : a.cancel dropPanics id =
      if (a.reader? id).any dropPanics then (.panicked, (a.takeReader id).2)
      else (.found (a.reader? id).isSome (a.phase? id), ((a.takeReader id).2.takePending id).2) :=
    rfl
  rw [hcancel] at h
  split at h
  · next hp =>
    obtain ⟨c, hc, hdrop⟩ := (Option.any_eq_true _ _).mp hp
    obtain ⟨rfl, rfl⟩ := Prod.mk.inj h
    exact .inl ⟨c, hc, hdrop, rfl, rfl⟩
  · obtain ⟨rfl, rfl⟩ := Prod.mk.inj h
    exact .inr ⟨rfl, rfl⟩

theorem reader?_cancel {dropPanics : κ → Bool} {result : Cancellation}
    (h : a.cancel dropPanics id = (result, b)) :
    b.reader? j = if j = id then none else a.reader? j := by
  rcases cancel_cases h with ⟨_, _, _, _, rfl⟩ | ⟨_, rfl⟩ <;> simp

theorem eq_of_claim (h : a.claim id = some b) :
    a.isPending id = true ∧ b = { a with
      pending := a.pending.map fun e => if e.1 = id then (id, .running) else e } := by
  unfold claim at h
  split at h
  · next hp => exact ⟨hp, (Option.some.inj h).symm⟩
  · exact nomatch h

theorem phase?_claim (h : a.claim id = some b) :
    b.phase? j = if j = id then some .running else a.phase? j := by
  obtain ⟨hp, rfl⟩ := eq_of_claim h
  obtain ⟨phase, hphase⟩ := Option.isSome_iff_exists.mp hp
  have hlookup : a.pending.lookup id = some phase := hphase
  show List.lookup j _ = _
  rw [lookup_replace, hlookup]
  rfl

theorem eq_of_shutdown {pending : List (Nat × PendingPhase)}
    (h : a.shutdown = some (pending, b)) :
    a.stopped = false ∧ pending = a.pending ∧ b = { a with stopped := true, pending := [] } := by
  unfold shutdown at h
  split at h
  · exact nomatch h
  · next hs =>
    obtain ⟨rfl, rfl⟩ := Prod.mk.inj (Option.some.inj h)
    exact ⟨by simpa using hs, rfl, rfl⟩

end Agenda
end TaskEngine
