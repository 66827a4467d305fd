import Mathlib.Logic.Relation

/-! What may come of a state when a system goes on by deeds, one after the other. A deed
often replaces one item of a list by another. -/

namespace TaskEngine

variable {S D : Type} {Step : S → D → S → Prop} {s t u : S} {d : D}

/-- Deeds lead from the one state to the other. -/
def Leads (Step : S → D → S → Prop) (s t : S) : Prop :=
  Relation.ReflTransGen (fun s s' => ∃ d, Step s d s') s t

namespace Leads

theorem refl (s : S) : Leads Step s s := Relation.ReflTransGen.refl

theorem next (hl : Leads Step s t) (st : Step t d u) : Leads Step s u := hl.tail ⟨d, st⟩

theorem first (st : Step s d t) (hl : Leads Step t u) : Leads Step s u := hl.head ⟨d, st⟩

theorem preserve {P : S → Prop} (hl : Leads Step s t)
    (hstep : ∀ {s d s'}, P s → Step s d s' → P s') (hp : P s) : P t := by
  induction hl with
  | refl => exact hp
  | tail _ hnext ih =>
    obtain ⟨d, st⟩ := hnext
    exact hstep ih st

/-- In states of the kind `R`, which is kept, every deed keeps `P`. -/
theorem keep {R P : S → Prop} (hl : Leads Step s t)
    (hkind : ∀ {s d s'}, R s → Step s d s' → R s')
    (hstep : ∀ {s d s'}, R s → Step s d s' → P s → P s') (hr : R s) (hp : P s) : R t ∧ P t :=
  hl.preserve (P := fun t => R t ∧ P t) (fun h st => ⟨hkind h.1 st, hstep h.1 st h.2⟩) ⟨hr, hp⟩

end Leads

theorem getElem?_replaced {α : Type} (before after : List α) (x y : α) (k : Nat) :
    (before ++ y :: after)[k]? =
      if k = before.length then some y else (before ++ x :: after)[k]? := by
  by_cases hk : k = before.length
  · simp [hk]
  · rw [if_neg hk]
    rcases Nat.lt_or_gt_of_ne hk with hlt | hgt
    · rw [List.getElem?_append_left hlt, List.getElem?_append_left hlt]
    · obtain ⟨n, hn⟩ : ∃ n, k - before.length = n + 1 := ⟨k - before.length - 1, by omega⟩
      rw [List.getElem?_append_right (Nat.le_of_lt hgt),
        List.getElem?_append_right (Nat.le_of_lt hgt), hn]
      rfl

theorem exists_split_of_getElem? {α : Type} {l : List α} {k : Nat} {x : α} (h : l[k]? = some x) :
    ∃ before after, l = before ++ x :: after ∧ before.length = k := by
  obtain ⟨hk, rfl⟩ := List.getElem?_eq_some_iff.mp h
  refine ⟨l.take k, l.drop (k + 1), ?_, List.length_take_of_le (Nat.le_of_lt hk)⟩
  rw [← List.drop_eq_getElem_cons hk, List.take_append_drop]

end TaskEngine
