import Mathlib.Data.List.Nodup
import Mathlib.Data.List.Perm.Basic
import TaskEngine.Pool.Basic

/-! The live workers of a pool, counted by their phases. A hold of the lock concerns one
worker and leaves the others as they are. -/

namespace TaskEngine

namespace WorkerPhase

variable {τ : Type}

def isStarting : WorkerPhase τ → Bool
  | .starting => true
  | _ => false

def isWaiting : WorkerPhase τ → Bool
  | .waiting _ => true
  | _ => false

def isWoken : WorkerPhase τ → Bool
  | .woken _ => true
  | _ => false

def task? : WorkerPhase τ → Option τ
  | .executing task => some task
  | _ => none

end WorkerPhase

def headcount {τ : Type} (kind : WorkerPhase τ → Bool) (crew : List (Worker τ)) : Nat :=
  crew.countP fun w => kind w.phase

def tasksOf {τ : Type} (crew : List (Worker τ)) : List τ := crew.filterMap fun w => w.phase.task?

section Headcount

variable {τ : Type} (kind : WorkerPhase τ → Bool)

@[simp] theorem headcount_nil : headcount kind [] = 0 := rfl

@[simp] theorem headcount_cons (w : Worker τ) (crew : List (Worker τ)) :
    headcount kind (w :: crew) = headcount kind crew + if kind w.phase then 1 else 0 := by
  simp [headcount, List.countP_cons]

@[simp] theorem headcount_append (crew crew' : List (Worker τ)) :
    headcount kind (crew ++ crew') = headcount kind crew + headcount kind crew' := by
  simp [headcount, List.countP_append]

theorem headcount_perm {crew crew' : List (Worker τ)} (h : crew.Perm crew') :
    headcount kind crew = headcount kind crew' := h.countP_eq _

@[simp] theorem tasksOf_nil : tasksOf ([] : List (Worker τ)) = [] := rfl

@[simp] theorem tasksOf_cons (w : Worker τ) (crew : List (Worker τ)) :
    tasksOf (w :: crew) = w.phase.task?.toList ++ tasksOf crew := by
  cases h : w.phase.task? <;> simp [tasksOf, h]

@[simp] theorem tasksOf_append (crew crew' : List (Worker τ)) :
    tasksOf (crew ++ crew') = tasksOf crew ++ tasksOf crew' := by
  simp [tasksOf]

theorem tasksOf_notified (crew : List (Worker τ)) :
    tasksOf (crew.map Worker.notified) = tasksOf crew := by
  induction crew with
  | nil => rfl
  | cons w crew ih =>
    obtain ⟨id, phase⟩ := w
    cases phase <;> simp [Worker.notified, WorkerPhase.task?, ih]

theorem tasksOf_perm {crew crew' : List (Worker τ)} (h : crew.Perm crew') :
    (tasksOf crew).Perm (tasksOf crew') := h.filterMap _

theorem mem_tasksOf {crew : List (Worker τ)} {task : τ} :
    task ∈ tasksOf crew ↔ ∃ w ∈ crew, w.phase = .executing task := by
  simp only [tasksOf, List.mem_filterMap]
  constructor
  · rintro ⟨w, hw, ht⟩
    refine ⟨w, hw, ?_⟩
    cases hp : w.phase <;> simp_all [WorkerPhase.task?]
  · rintro ⟨w, hw, hp⟩
    exact ⟨w, hw, by simp [hp, WorkerPhase.task?]⟩

end Headcount

namespace Pool

variable {τ : Type}

def starting (p : Pool τ) : Nat := headcount WorkerPhase.isStarting p.crew

def waiting (p : Pool τ) : Nat := headcount WorkerPhase.isWaiting p.crew

def woken (p : Pool τ) : Nat := headcount WorkerPhase.isWoken p.crew

def executing (p : Pool τ) : List τ := tasksOf p.crew

def others (p : Pool τ) (id : Nat) : List (Worker τ) := (p.withoutWorker id).crew

theorem mem_others {p : Pool τ} {id : Nat} {v : Worker τ} :
    v ∈ p.others id ↔ v ∈ p.crew ∧ v.id ≠ id := by
  simp [others, withoutWorker]

theorem others_subset (p : Pool τ) (id : Nat) : p.others id ⊆ p.crew :=
  List.filter_sublist.subset

theorem mem_setPhase_of_ne {p : Pool τ} {id : Nat} {phase : WorkerPhase τ} {v : Worker τ}
    (hv : v ∈ p.crew) (hne : v.id ≠ id) : v ∈ (p.setPhase id phase).crew :=
  List.mem_map.mpr ⟨v, hv, if_neg hne⟩

theorem crew_length (p : Pool τ) :
    p.crew.length = p.starting + p.waiting + p.woken + p.executing.length := by
  unfold starting waiting woken executing
  induction p.crew with
  | nil => rfl
  | cons w crew ih =>
    obtain ⟨id, phase⟩ := w
    cases phase <;>
      simp [WorkerPhase.isStarting, WorkerPhase.isWaiting, WorkerPhase.isWoken,
        WorkerPhase.task?, ih] <;> omega

theorem exists_starting {p : Pool τ} (h : 0 < p.starting) : ∃ id, ⟨id, .starting⟩ ∈ p.crew := by
  obtain ⟨⟨id, phase⟩, hw, hp⟩ := List.countP_pos_iff.mp h
  cases phase with
  | starting => exact ⟨id, hw⟩
  | _ => exact nomatch hp

theorem crew_split {p : Pool τ} {w : Worker τ} (hn : (p.crew.map Worker.id).Nodup)
    (hw : w ∈ p.crew) :
    ∃ before after, p.crew = before ++ w :: after ∧ p.others w.id = before ++ after ∧
      ∀ phase, (p.setPhase w.id phase).crew = before ++ ⟨w.id, phase⟩ :: after := by
  obtain ⟨before, after, hs⟩ := List.append_of_mem hw
  have hids : ∀ v ∈ before ++ after, v.id ≠ w.id := by
    rw [hs, List.map_append, List.map_cons, List.nodup_middle, List.nodup_cons] at hn
    intro v hv he
    exact hn.1 (he ▸ by simpa using List.mem_map_of_mem (f := Worker.id) hv)
  have hb : ∀ v ∈ before, v.id ≠ w.id := fun v hv => hids v (by simp [hv])
  have ha : ∀ v ∈ after, v.id ≠ w.id := fun v hv => hids v (by simp [hv])
  refine ⟨before, after, hs, ?_, fun phase => ?_⟩
  · simp only [others, withoutWorker, hs, List.filter_append, List.filter_cons]
    rw [List.filter_eq_self.mpr (by simpa using hb), List.filter_eq_self.mpr (by simpa using ha)]
    simp
  · have keep : ∀ l : List (Worker τ), (∀ v ∈ l, v.id ≠ w.id) →
        (l.map fun v => if v.id = w.id then (⟨w.id, phase⟩ : Worker τ) else v) = l := by
      intro l hl
      exact (List.map_congr_left fun v hv => if_neg (hl v hv)).trans (List.map_id' l)
    simp [setPhase, hs, keep before hb, keep after ha]

theorem crew_perm {p : Pool τ} {w : Worker τ} (hn : (p.crew.map Worker.id).Nodup)
    (hw : w ∈ p.crew) : p.crew.Perm (w :: p.others w.id) := by
  obtain ⟨before, after, hs, ho, _⟩ := crew_split hn hw
  rw [hs, ho]
  exact List.perm_middle

theorem setPhase_perm {p : Pool τ} {w : Worker τ} (hn : (p.crew.map Worker.id).Nodup)
    (hw : w ∈ p.crew) (phase : WorkerPhase τ) :
    (p.setPhase w.id phase).crew.Perm (⟨w.id, phase⟩ :: p.others w.id) := by
  obtain ⟨before, after, _, ho, hp⟩ := crew_split hn hw
  rw [hp, ho]
  exact List.perm_middle

theorem wakeFirst_cases (crew : List (Worker τ)) (hn : (crew.map Worker.id).Nodup) :
    wakeFirst crew = crew ∧ headcount WorkerPhase.isWaiting crew = 0 ∨
      ∃ id timed, ⟨id, .waiting timed⟩ ∈ crew ∧
        wakeFirst crew = crew.map fun w => if w.id = id then ⟨id, .woken false⟩ else w := by
  induction crew with
  | nil => exact .inl ⟨rfl, rfl⟩
  | cons w rest ih =>
    obtain ⟨id, phase⟩ := w
    obtain ⟨hfresh, hrest⟩ := List.nodup_cons.mp hn
    have skip : phase.isWaiting = false →
        wakeFirst (⟨id, phase⟩ :: rest) = ⟨id, phase⟩ :: wakeFirst rest := by
      intro hp
      cases phase with
      | waiting timed => exact nomatch hp
      | _ => rfl
    cases hp : phase.isWaiting with
    | true =>
      cases phase with
      | waiting timed =>
        have hkeep : (rest.map fun w => if w.id = id then ⟨id, .woken false⟩ else w) = rest := by
          refine (List.map_congr_left fun v hv => if_neg fun he => hfresh ?_).trans
            (List.map_id' rest)
          exact List.mem_map.mpr ⟨v, hv, he⟩
        exact .inr ⟨id, timed, List.mem_cons_self, by simp [wakeFirst, hkeep]⟩
      | _ => exact nomatch hp
    | false =>
      rw [skip hp]
      rcases ih hrest with ⟨he, hz⟩ | ⟨v, timed, hv, he⟩
      · exact .inl ⟨by rw [he], by simp [hz, hp]⟩
      · have hne : id ≠ v := fun h => hfresh (List.mem_map.mpr ⟨_, hv, h.symm⟩)
        exact .inr ⟨v, timed, List.mem_cons_of_mem _ hv, by simp [he, hne]⟩

end Pool
end TaskEngine
