import TaskEngine.Proofs.Pool.Crew

/-! Between two holds of the lock the counters of a pool agree with its crew. A worker that
gets the lock is counted out first if it had been waiting; then it takes a task, begins to
wait or leaves. -/

namespace TaskEngine
namespace Pool

variable {τ : Type}

/-- The counters agree with the crew. -/
structure Consistent (p : Pool τ) : Prop where
  ids_nodup : (p.crew.map Worker.id).Nodup
  ids_lt : ∀ w ∈ p.crew, w.id < p.nextWorker
  active_eq : p.active = p.crew.length
  idle_eq : p.idle = p.waiting + p.woken
  active_le : p.active ≤ p.max
  running_iff : p.stage = .running ↔ p.stopping = false
  empty_of_stopped : p.stage = .stopped → p.crew = []

/-- Worker `id` has the lock: the idle count speaks of the others only. -/
structure AtLock (p : Pool τ) (id : Nat) : Prop where
  ids_nodup : (p.crew.map Worker.id).Nodup
  ids_lt : ∀ w ∈ p.crew, w.id < p.nextWorker
  here : ∃ w ∈ p.crew, w.id = id
  active_eq : p.active = p.crew.length
  idle_eq : p.idle = headcount WorkerPhase.isWaiting (p.others id) +
    headcount WorkerPhase.isWoken (p.others id)
  active_le : p.active ≤ p.max
  running_iff : p.stage = .running ↔ p.stopping = false
  not_stopped : p.stage ≠ .stopped

def roused (p : Pool τ) (w : Worker τ) : Pool τ :=
  { p with idle := p.idle - if w.phase.isWoken then 1 else 0 }

/-- Everything that worker `id` can do to the pool before it gives the lock back, unless a panic
has killed it. -/
inductive Held (p : Pool τ) (id : Nat) : Pool τ → Turn τ → Prop
  | run {task : τ} {queue : BoundedQueue τ} (hq : p.queue.pop = some (task, queue)) :
      Held p id ({ p with queue }.setPhase id (.executing task)) (.run task)
  | wait (hq : p.queue.items = []) (hs : p.stopping = false) : Held p id (p.beginWait id) .wait
  | exit (hq : p.queue.items = []) (hs : p.stopping = true) :
      Held p id (p.dismiss id).1 (.leave false (p.dismiss id).2)
  | retire (hq : p.queue.items = []) (hs : p.stopping = false) (hc : p.core < p.active) :
      Held p id (p.countRetired.dismiss id).1 (.leave true (p.countRetired.dismiss id).2)

theorem dispatch_held (p : Pool τ) (id : Nat) :
    Held p id (p.dispatch id).1 (p.dispatch id).2 := by
  unfold dispatch
  split
  · next task queue hq => exact .run hq
  · next hq =>
    have hq : p.queue.items = [] := (BoundedQueue.pop_eq_none_iff _).mp hq
    split
    · next hs => exact .exit hq hs
    · next hs => exact .wait hq (by simpa using hs)

theorem mayRetire_iff (p : Pool τ) :
    p.mayRetire = true ↔ p.queue.items = [] ∧ p.stopping = false ∧ p.core < p.active := by
  simp [mayRetire, BoundedQueue.isEmpty, and_assoc]

theorem resume_held (p : Pool τ) (id : Nat) (timedOut : Bool) :
    Held { p with idle := p.idle - 1 } id (p.resume id timedOut).1 (p.resume id timedOut).2 := by
  simp only [resume]
  split
  · next h =>
    obtain ⟨_, hm⟩ := Bool.and_eq_true_iff.mp h
    obtain ⟨hq, hs, hc⟩ := (mayRetire_iff _).mp hm
    exact .retire hq hs hc
  · exact dispatch_held _ id

theorem turn_held {p q : Pool τ} {w : Worker τ} {turn : Turn τ}
    (h : p.turn w = some (q, turn)) : Held (p.roused w) w.id q turn := by
  obtain ⟨id, phase⟩ := w
  cases phase with
  | starting =>
    have he : p.dispatch id = (q, turn) := Option.some.inj h
    have := dispatch_held p id
    rwa [he] at this
  | woken timedOut =>
    have he : p.resume id timedOut = (q, turn) := Option.some.inj h
    have := resume_held p id timedOut
    rwa [he] at this
  | waiting timed => exact nomatch h
  | executing task => exact nomatch h

theorem finish_unwound (p : Pool τ) (id : Nat) :
    p.finish id .unwound = ((p.dismiss id).1, .die (p.dismiss id).2) := rfl

theorem finish_held (p : Pool τ) (id : Nat) {conclusion : Conclusion}
    (hc : conclusion ≠ .unwound) :
    Held (p.record conclusion) id (p.finish id conclusion).1 (p.finish id conclusion).2 := by
  cases conclusion with
  | unwound => exact absurd rfl hc
  | completed => exact dispatch_held _ id
  | panicked error => exact dispatch_held _ id

section Roused

variable (p : Pool τ) (w : Worker τ)

@[simp] theorem roused_queue : (p.roused w).queue = p.queue := rfl

@[simp] theorem roused_active : (p.roused w).active = p.active := rfl

@[simp] theorem roused_max : (p.roused w).max = p.max := rfl

@[simp] theorem roused_core : (p.roused w).core = p.core := rfl

@[simp] theorem roused_stopping : (p.roused w).stopping = p.stopping := rfl

@[simp] theorem roused_stage : (p.roused w).stage = p.stage := rfl

@[simp] theorem roused_tally : (p.roused w).tally = p.tally := rfl

@[simp] theorem roused_others (id : Nat) : (p.roused w).others id = p.others id := rfl

end Roused

section Record

variable (p : Pool τ) (conclusion : Conclusion)

@[simp] theorem record_queue : (p.record conclusion).queue = p.queue := by cases conclusion <;> rfl

@[simp] theorem record_idle : (p.record conclusion).idle = p.idle := by cases conclusion <;> rfl

@[simp] theorem record_active : (p.record conclusion).active = p.active := by
  cases conclusion <;> rfl

@[simp] theorem record_max : (p.record conclusion).max = p.max := by cases conclusion <;> rfl

@[simp] theorem record_core : (p.record conclusion).core = p.core := by cases conclusion <;> rfl

@[simp] theorem record_stopping : (p.record conclusion).stopping = p.stopping := by
  cases conclusion <;> rfl

@[simp] theorem record_others (id : Nat) : (p.record conclusion).others id = p.others id := by
  cases conclusion <;> rfl

end Record

theorem isLast_iff {p : Pool τ} (hs : p.stage ≠ .stopped) :
    p.isLast = true ↔ p.stopping = true ∧ p.active - 1 = 0 := by
  simp [isLast, hs]

theorem Consistent.eq_of_id {p : Pool τ} {v w : Worker τ} (h : p.Consistent) (hv : v ∈ p.crew)
    (hw : w ∈ p.crew) (he : v.id = w.id) : v = w :=
  List.inj_on_of_nodup_map h.ids_nodup hv hw he

theorem Consistent.task_unique {p : Pool τ} {id : Nat} {task task' : τ} (h : p.Consistent)
    (hw : ⟨id, .executing task⟩ ∈ p.crew) (hw' : ⟨id, .executing task'⟩ ∈ p.crew) :
    task = task' :=
  WorkerPhase.executing.inj (congrArg Worker.phase (h.eq_of_id hw hw' rfl))

theorem Consistent.stopping_iff {p : Pool τ} (h : p.Consistent) :
    p.stopping = true ↔ p.stage ≠ .running := by
  rw [ne_eq, h.running_iff]
  simp

theorem Consistent.draining {p : Pool τ} (h : p.Consistent) (hs : p.stopping = true)
    (hne : p.stage ≠ .stopped) : p.stage = .draining := by
  have hnot := h.stopping_iff.mp hs
  cases hstage : p.stage with
  | running => exact absurd hstage hnot
  | draining => rfl
  | stopped => exact absurd hstage hne

theorem Consistent.atLock {p : Pool τ} {w : Worker τ} (h : p.Consistent) (hw : w ∈ p.crew)
    (hp : w.phase.isWaiting = false) : (p.roused w).AtLock w.id := by
  have hidle : p.idle = headcount WorkerPhase.isWaiting (p.others w.id) +
      (headcount WorkerPhase.isWoken (p.others w.id) + if w.phase.isWoken then 1 else 0) := by
    have := h.idle_eq
    simpa [waiting, woken, headcount_perm _ (crew_perm h.ids_nodup hw), hp] using this
  have hs : p.stage ≠ .stopped := fun hs => by simp [h.empty_of_stopped hs] at hw
  refine ⟨h.ids_nodup, h.ids_lt, ⟨w, hw, rfl⟩, h.active_eq, ?_, h.active_le, h.running_iff, hs⟩
  show p.idle - (if w.phase.isWoken then 1 else 0) = _
  simp only [roused_others]
  omega

theorem Consistent.atLock_executing {p : Pool τ} {id : Nat} {task : τ} (h : p.Consistent)
    (hw : ⟨id, .executing task⟩ ∈ p.crew) : p.AtLock id := by
  simpa [roused, WorkerPhase.isWoken] using h.atLock hw rfl

theorem AtLock.record {p : Pool τ} {id : Nat} (h : p.AtLock id) (conclusion : Conclusion) :
    (p.record conclusion).AtLock id := by
  cases conclusion <;> exact { h with }

theorem phase_of_turn {p : Pool τ} {w : Worker τ} {r : Pool τ × Turn τ}
    (h : p.turn w = some r) :
    w.phase = .starting ∨ ∃ timedOut, w.phase = .woken timedOut := by
  obtain ⟨id, phase⟩ := w
  cases phase with
  | starting => exact .inl rfl
  | woken timedOut => exact .inr ⟨timedOut, rfl⟩
  | waiting timed => exact nomatch h
  | executing task => exact nomatch h

theorem Consistent.atLock_turn {p : Pool τ} {w : Worker τ} {r : Pool τ × Turn τ}
    (h : p.Consistent) (hw : w ∈ p.crew) (ht : p.turn w = some r) :
    (p.roused w).AtLock w.id := by
  refine h.atLock hw ?_
  rcases phase_of_turn ht with hp | ⟨timedOut, hp⟩ <;> simp [hp, WorkerPhase.isWaiting]

theorem AtLock.crew_perm {p : Pool τ} {id : Nat} (h : p.AtLock id) :
    ∃ phase, p.crew.Perm (⟨id, phase⟩ :: p.others id) := by
  obtain ⟨w, hw, rfl⟩ := h.here
  exact ⟨w.phase, Pool.crew_perm h.ids_nodup hw⟩

theorem AtLock.setPhase_perm {p : Pool τ} {id : Nat} (h : p.AtLock id) (phase : WorkerPhase τ) :
    (p.setPhase id phase).crew.Perm (⟨id, phase⟩ :: p.others id) := by
  obtain ⟨w, hw, rfl⟩ := h.here
  exact Pool.setPhase_perm h.ids_nodup hw phase

theorem AtLock.headcount_setPhase {p : Pool τ} {id : Nat} (h : p.AtLock id)
    (kind : WorkerPhase τ → Bool) (phase : WorkerPhase τ) :
    headcount kind (p.setPhase id phase).crew =
      headcount kind (p.others id) + if kind phase then 1 else 0 := by
  rw [headcount_perm kind (h.setPhase_perm phase), headcount_cons]

theorem beginWait_perm (p : Pool τ) (id : Nat) :
    (p.beginWait id).crew.Perm
      (⟨id, .waiting (decide (p.core < p.active))⟩ :: p.others id) :=
  List.perm_append_singleton _ _

theorem AtLock.consistent_of_perm {p q : Pool τ} {id : Nat} {phase : WorkerPhase τ}
    (h : p.AtLock id) (hc : q.crew.Perm (⟨id, phase⟩ :: p.others id))
    (hi : q.idle = p.idle + if phase.isWaiting then 1 else 0) (hk : phase.isWoken = false)
    (hn : q.nextWorker = p.nextWorker) (ha : q.active = p.active) (hm : q.max = p.max)
    (hs : q.stopping = p.stopping) (hg : q.stage = p.stage) : q.Consistent := by
  obtain ⟨phase', hp⟩ := h.crew_perm
  have hids : (q.crew.map Worker.id).Perm (p.crew.map Worker.id) := by
    simpa using (hc.map Worker.id).trans (hp.map Worker.id).symm
  refine ⟨hids.nodup_iff.mpr h.ids_nodup, ?_, ?_, ?_, ?_, ?_, ?_⟩
  · intro w hw
    obtain ⟨v, hv, he⟩ := List.mem_map.mp (hids.mem_iff.mp (List.mem_map_of_mem hw))
    rw [hn, ← he]
    exact h.ids_lt v hv
  · have := hids.length_eq
    simp only [List.length_map] at this
    rw [ha, h.active_eq, this]
  · have := h.idle_eq
    simp only [waiting, woken, headcount_perm _ hc, headcount_cons, hk, hi]
    simp
    omega
  · rw [ha, hm]
    exact h.active_le
  · rw [hg, hs]
    exact h.running_iff
  · intro hst
    exact absurd (hg ▸ hst) h.not_stopped

theorem AtLock.consistent_dismiss {p : Pool τ} {id : Nat} (h : p.AtLock id) :
    (p.dismiss id).1.Consistent := by
  obtain ⟨phase, hp⟩ := h.crew_perm
  have hlen : p.crew.length = (p.others id).length + 1 := by simpa using hp.length_eq
  have hsub : (p.others id).Sublist p.crew := List.filter_sublist
  have hact := h.active_eq
  refine ⟨h.ids_nodup.sublist (hsub.map _), fun w hw => h.ids_lt w (hsub.subset hw), ?_,
    h.idle_eq, ?_, ?_, ?_⟩
  · show p.active - 1 = (p.others id).length
    omega
  · have := h.active_le
    show p.active - 1 ≤ p.max
    omega
  · show (if p.isLast then PoolStage.stopped else p.stage) = .running ↔ p.stopping = false
    split
    · next hl =>
      have := ((isLast_iff h.not_stopped).mp hl).1
      simp [this]
    · exact h.running_iff
  · show (if p.isLast then PoolStage.stopped else p.stage) = .stopped → p.others id = []
    intro hst
    have hl : p.isLast = true := by
      by_contra hl
      rw [if_neg hl] at hst
      exact h.not_stopped hst
    have := ((isLast_iff h.not_stopped).mp hl).2
    exact List.length_eq_zero_iff.mp (by omega)

theorem AtLock.held_consistent {p q : Pool τ} {id : Nat} {turn : Turn τ} (h : p.AtLock id)
    (hd : Held p id q turn) : q.Consistent := by
  cases hd with
  | run hq =>
    exact h.consistent_of_perm (h.setPhase_perm _) rfl rfl rfl rfl rfl rfl rfl
  | wait hq hs =>
    exact h.consistent_of_perm (beginWait_perm p id) rfl rfl rfl rfl rfl rfl rfl
  | exit hq hs => exact h.consistent_dismiss
  | retire hq hs hc => exact AtLock.consistent_dismiss { h with }

theorem AtLock.finish_consistent {p : Pool τ} {id : Nat} (h : p.AtLock id)
    (conclusion : Conclusion) : (p.finish id conclusion).1.Consistent := by
  by_cases hc : conclusion = .unwound
  · rw [hc, finish_unwound]
    exact h.consistent_dismiss
  · exact (h.record conclusion).held_consistent (finish_held p id hc)

theorem Held.others_subset {p q : Pool τ} {id : Nat} {turn : Turn τ} (hd : Held p id q turn) :
    p.others id ⊆ q.crew := by
  intro v hv
  cases hd with
  | run => exact mem_setPhase_of_ne (mem_others.mp hv).1 (mem_others.mp hv).2
  | wait => exact List.mem_append_left _ hv
  | exit | retire => exact hv

theorem finish_others_subset (p : Pool τ) (id : Nat) (conclusion : Conclusion) :
    p.others id ⊆ (p.finish id conclusion).1.crew := by
  by_cases hu : conclusion = .unwound
  · rw [hu, finish_unwound]
    exact List.Subset.refl _
  · rw [← record_others p conclusion id]
    exact (finish_held p id hu).others_subset

theorem Consistent.hire {p : Pool τ} (h : p.Consistent) (ha : p.active < p.max)
    (hs : p.stage ≠ .stopped) : p.hire.Consistent := by
  have hnew : p.nextWorker ∉ p.crew.map Worker.id := by
    intro hm
    obtain ⟨w, hw, he⟩ := List.mem_map.mp hm
    have := h.ids_lt w hw
    omega
  refine ⟨?_, ?_, ?_, ?_, ha, h.running_iff, fun hst => absurd hst hs⟩
  · have hp : (p.hire.crew.map Worker.id).Perm (p.nextWorker :: p.crew.map Worker.id) := by
      simp [Pool.hire]
    exact hp.nodup_iff.mpr (List.nodup_cons.mpr ⟨hnew, h.ids_nodup⟩)
  · intro w hw
    rcases List.mem_append.mp hw with hw | hw
    · exact Nat.lt_succ_of_lt (h.ids_lt w hw)
    · rw [List.mem_singleton.mp hw]
      exact Nat.lt_succ_self _
  · simp [Pool.hire, h.active_eq]
  · have := h.idle_eq
    simpa [Pool.hire, waiting, woken, WorkerPhase.isWaiting, WorkerPhase.isWoken] using this

theorem Consistent.hireMany {p : Pool τ} (h : p.Consistent) (hs : p.stage ≠ .stopped) (n : Nat)
    (ha : p.active + n ≤ p.max) : (Pool.hireMany n p).Consistent := by
  induction n generalizing p with
  | zero => exact h
  | succ n ih =>
    have ha' : p.hire.active + n ≤ p.hire.max := by simp only [Pool.hire]; omega
    exact ih (h.hire (by omega) hs) hs ha'

theorem hireMany_eq (n : Nat) (p : Pool τ) :
    Pool.hireMany n p =
      { p with
        nextWorker := p.nextWorker + n
        active := p.active + n
        tally := { p.tally with spawnedWorkers := p.tally.spawnedWorkers + n }
        crew := p.crew ++ (List.range' p.nextWorker n).map fun id => ⟨id, .starting⟩ } := by
  induction n generalizing p with
  | zero => simp [Pool.hireMany]
  | succ n ih =>
    rw [Pool.hireMany, ih p.hire]
    simp [Pool.hire, List.range'_succ, Nat.add_assoc, Nat.add_comm 1 n]

theorem consistent_start {c : PoolConfig} (hc : c.coreThreads.toNat ≤ c.maxThreads.toNat) :
    (start c : Pool τ).Consistent := by
  refine Consistent.hireMany ?_ (by simp) _ (by simpa using hc)
  exact ⟨List.nodup_nil, by simp, rfl, rfl, Nat.zero_le _, by simp, by simp⟩

theorem Consistent.grow {p : Pool τ} (h : p.Consistent) (hs : p.stage ≠ .stopped) :
    p.grow.Consistent := by
  unfold Pool.grow
  split
  · next hw => exact h.hire (by simp only [wantsWorker, decide_eq_true_eq] at hw; exact hw.2) hs
  · exact h

theorem eq_of_submitWith_error {spawns : Bool} {p q : Pool τ} {task : τ} {why : Refusal}
    (h : p.submitWith spawns task = (q, .error why)) : q = p.countRejected := by
  unfold submitWith at h
  split at h
  · exact (congrArg Prod.fst h).symm
  · split at h
    · exact (congrArg Prod.fst h).symm
    · exact nomatch congrArg Prod.snd h

theorem eq_of_submitWith_ok {spawns : Bool} {p q : Pool τ} {task : τ}
    (h : p.submitWith spawns task = (q, .ok ())) :
    p.stopping = false ∧ ∃ queue : BoundedQueue τ, queue.items = p.queue.items ++ [task] ∧
      queue.capacity = p.queue.capacity ∧
      q = if spawns then ({ p with queue }.countSubmitted).grow
        else { p with queue }.countSubmitted := by
  unfold submitWith at h
  split at h
  · exact nomatch congrArg Prod.snd h
  · next hs =>
    split at h
    · exact nomatch congrArg Prod.snd h
    · next queue hp =>
      by_cases hq : p.queue.size < p.queue.capacity
      · obtain ⟨queue', hp', hi, hc⟩ := BoundedQueue.push_of_lt task hq
        obtain rfl : queue' = queue := Except.ok.inj (hp'.symm.trans hp)
        exact ⟨by simpa using hs, queue', hi, hc, (congrArg Prod.fst h).symm⟩
      · rw [BoundedQueue.push_of_full task (by omega)] at hp
        exact nomatch hp

theorem submitWith_stopping {spawns : Bool} {p q : Pool τ} {task : τ}
    (h : p.submitWith spawns task = (q, .ok ())) : q.stopping = p.stopping := by
  obtain ⟨_, queue, _, _, rfl⟩ := eq_of_submitWith_ok h
  cases spawns with
  | false => rfl
  | true =>
    simp only [if_true, Pool.grow]
    split <;> rfl

theorem submit_crew_subset {spawns : Bool} {p q : Pool τ} {task : τ}
    (h : p.submitWith spawns task = (q, .ok ())) : p.crew ⊆ q.crew := by
  obtain ⟨_, queue, _, _, rfl⟩ := eq_of_submitWith_ok h
  cases spawns with
  | false => exact List.Subset.refl _
  | true =>
    simp only [if_true, Pool.grow]
    split
    · exact List.subset_append_left _ _
    · exact List.Subset.refl _

theorem submitWith_of_lt {p : Pool τ} (hs : p.stopping = false)
    (hq : p.queue.size < p.queue.capacity) (spawns : Bool) (task : τ) :
    ∃ q, p.submitWith spawns task = (q, .ok ()) := by
  obtain ⟨queue, hp, _⟩ := BoundedQueue.push_of_lt task hq
  unfold submitWith
  rw [hs, hp]
  exact ⟨_, rfl⟩

theorem Consistent.submitWith_ok {spawns : Bool} {p q : Pool τ} {task : τ} (h : p.Consistent)
    (hs : p.submitWith spawns task = (q, .ok ())) : q.Consistent := by
  obtain ⟨hr, queue, _, _, rfl⟩ := eq_of_submitWith_ok hs
  have hq : ({ p with queue }.countSubmitted).Consistent := { h with }
  have hst : p.stage ≠ .stopped := by rw [h.running_iff.mpr hr]; decide
  cases spawns with
  | true => exact hq.grow hst
  | false => exact hq

theorem Consistent.wake {p : Pool τ} {id : Nat} {timed timedOut : Bool} (h : p.Consistent)
    (hw : ⟨id, .waiting timed⟩ ∈ p.crew) : (p.setPhase id (.woken timedOut)).Consistent := by
  have hp := Pool.crew_perm h.ids_nodup hw
  have hc := Pool.setPhase_perm h.ids_nodup hw (.woken timedOut)
  have hids : ((p.setPhase id (.woken timedOut)).crew.map Worker.id).Perm
      (p.crew.map Worker.id) := by
    simpa using (hc.map Worker.id).trans (hp.map Worker.id).symm
  refine ⟨hids.nodup_iff.mpr h.ids_nodup, ?_, ?_, ?_, h.active_le, h.running_iff, ?_⟩
  · intro w hw
    obtain ⟨v, hv, he⟩ := List.mem_map.mp (hids.mem_iff.mp (List.mem_map_of_mem hw))
    exact he ▸ h.ids_lt v hv
  · simpa [setPhase] using h.active_eq
  · have := h.idle_eq
    simp only [waiting, woken, headcount_perm _ hp, headcount_perm _ hc, headcount_cons,
      WorkerPhase.isWaiting, WorkerPhase.isWoken] at this ⊢
    show p.idle = _
    simp at this ⊢
    omega
  · intro hst
    have := h.empty_of_stopped hst
    simp [this] at hw

theorem headcount_notified (crew : List (Worker τ)) :
    headcount WorkerPhase.isWaiting (crew.map Worker.notified) = 0 ∧
      headcount WorkerPhase.isWoken (crew.map Worker.notified) =
        headcount WorkerPhase.isWaiting crew + headcount WorkerPhase.isWoken crew ∧
      headcount WorkerPhase.isStarting (crew.map Worker.notified) =
        headcount WorkerPhase.isStarting crew := by
  induction crew with
  | nil => simp
  | cons w crew ih =>
    obtain ⟨id, phase⟩ := w
    obtain ⟨h₁, h₂, h₃⟩ := ih
    cases phase <;>
      simp [Worker.notified, WorkerPhase.isWaiting, WorkerPhase.isWoken,
        WorkerPhase.isStarting, h₁, h₂, h₃] <;> omega

@[simp] theorem notified_id (w : Worker τ) : w.notified.id = w.id := by
  unfold Worker.notified; split <;> rfl

theorem notified_eq_self {w : Worker τ} (hw : w.phase.isWaiting = false) : w.notified = w := by
  obtain ⟨id, phase⟩ := w
  cases phase with
  | waiting => exact nomatch hw
  | _ => rfl

theorem map_id_notified (crew : List (Worker τ)) :
    (crew.map Worker.notified).map Worker.id = crew.map Worker.id := by
  rw [List.map_map]
  exact List.map_congr_left fun w _ => notified_id w

theorem Consistent.notifyAll {p : Pool τ} (h : p.Consistent) : p.notifyAll.Consistent := by
  obtain ⟨h₁, h₂, _⟩ := headcount_notified p.crew
  refine ⟨?_, ?_, ?_, ?_, h.active_le, h.running_iff, ?_⟩
  · show ((p.crew.map Worker.notified).map Worker.id).Nodup
    rw [map_id_notified]
    exact h.ids_nodup
  · intro w hw
    obtain ⟨v, hv, rfl⟩ := List.mem_map.mp hw
    rw [notified_id]
    exact h.ids_lt v hv
  · simpa [Pool.notifyAll] using h.active_eq
  · have := h.idle_eq
    simp only [Pool.notifyAll, waiting, woken, h₁, h₂] at this ⊢
    omega
  · intro hst
    simp [Pool.notifyAll, h.empty_of_stopped hst]

theorem eq_of_beginDrain {p q : Pool τ} {queued : Option Nat}
    (h : p.beginDrain = some (q, queued)) :
    q = { p with stopping := true, stage := .draining } := by
  unfold Pool.beginDrain at h
  split at h
  · exact nomatch h
  · exact (congrArg Prod.fst (Option.some.inj h)).symm

theorem beginDrain_eq_none_iff {p : Pool τ} : p.beginDrain = none ↔ p.stage = .stopped := by
  simp [Pool.beginDrain]

theorem confirmStopped_fst (p : Pool τ) : p.confirmStopped.1 = { p with stage := .stopped } := by
  unfold Pool.confirmStopped
  split
  · next h => rw [← h]
  · rfl

theorem Consistent.beginDrain {p q : Pool τ} {queued : Option Nat} (h : p.Consistent)
    (hb : p.beginDrain = some (q, queued)) : q.Consistent := by
  rw [eq_of_beginDrain hb]
  exact { h with running_iff := by simp, empty_of_stopped := by simp }

theorem Consistent.takeQueued {p : Pool τ} (h : p.Consistent) : p.takeQueued.1.Consistent := by
  refine { h with running_iff := ?_, empty_of_stopped := ?_ }
  · show (if p.stage = .running then PoolStage.draining else p.stage) = .running ↔ _
    split <;> simp [Pool.takeQueued, *]
  · show (if p.stage = .running then PoolStage.draining else p.stage) = .stopped → p.crew = []
    split
    · exact nofun
    · exact h.empty_of_stopped

theorem Consistent.confirmStopped {p : Pool τ} (h : p.Consistent) (hs : p.stopping = true)
    (ha : p.active = 0) : p.confirmStopped.1.Consistent := by
  rw [confirmStopped_fst]
  refine { h with running_iff := by simp [hs], empty_of_stopped := fun _ => ?_ }
  exact List.length_eq_zero_iff.mp (h.active_eq ▸ ha)

/-- The sizes of a pool are fixed, and it never takes back that it stops. -/
structure Later (p q : Pool τ) : Prop where
  core_eq : q.core = p.core
  max_eq : q.max = p.max
  capacity_eq : q.queue.capacity = p.queue.capacity
  stopping : p.stopping = true → q.stopping = true

theorem Later.refl (p : Pool τ) : p.Later p := ⟨rfl, rfl, rfl, id⟩

theorem Later.trans {p q r : Pool τ} (h : p.Later q) (h' : q.Later r) : p.Later r :=
  ⟨h'.core_eq.trans h.core_eq, h'.max_eq.trans h.max_eq, h'.capacity_eq.trans h.capacity_eq,
    h'.stopping ∘ h.stopping⟩

theorem later_grow (p : Pool τ) : p.Later p.grow := by
  unfold grow
  split <;> exact ⟨rfl, rfl, rfl, id⟩

theorem later_submitWith_ok {spawns : Bool} {p q : Pool τ} {task : τ}
    (h : p.submitWith spawns task = (q, .ok ())) : p.Later q := by
  obtain ⟨_, queue, _, hc, rfl⟩ := eq_of_submitWith_ok h
  have hq : p.Later ({ p with queue }.countSubmitted) := ⟨rfl, rfl, hc, fun h => h⟩
  cases spawns with
  | true => exact hq.trans (later_grow _)
  | false => exact hq

theorem Held.later {p q : Pool τ} {id : Nat} {turn : Turn τ} (hd : Held p id q turn) :
    p.Later q := by
  cases hd with
  | run hq => exact ⟨rfl, rfl, (BoundedQueue.items_of_pop hq).2, fun h => h⟩
  | wait => exact ⟨rfl, rfl, rfl, fun h => h⟩
  | exit => exact ⟨rfl, rfl, rfl, fun h => h⟩
  | retire => exact ⟨rfl, rfl, rfl, fun h => h⟩

section Start

variable (c : PoolConfig)

@[simp] theorem start_core : (start c : Pool τ).core = c.coreThreads.toNat := by
  simp [start, hireMany_eq]

@[simp] theorem start_max : (start c : Pool τ).max = c.maxThreads.toNat := by
  simp [start, hireMany_eq]

@[simp] theorem start_stopping : (start c : Pool τ).stopping = false := by
  simp [start, hireMany_eq]

@[simp] theorem start_stage : (start c : Pool τ).stage = .running := by
  simp [start, hireMany_eq]

@[simp] theorem start_idle : (start c : Pool τ).idle = 0 := by
  simp [start, hireMany_eq]

@[simp] theorem start_queue : (start c : Pool τ).queue = .empty c.queueCapacity.toNat := by
  simp [start, hireMany_eq]

@[simp] theorem start_active : (start c : Pool τ).active = c.coreThreads.toNat := by
  simp [start, hireMany_eq]

@[simp] theorem start_executing : (start c : Pool τ).executing = [] := by
  simp [start, hireMany_eq, executing, tasksOf, WorkerPhase.task?]

@[simp] theorem start_tally :
    (start c : Pool τ).tally = { spawnedWorkers := c.coreThreads.toNat } := by
  simp [start, hireMany_eq]

end Start

theorem later_roused (p : Pool τ) (w : Worker τ) : p.Later (p.roused w) := ⟨rfl, rfl, rfl, id⟩

theorem Held.stopping {p q : Pool τ} {id : Nat} {turn : Turn τ} (hd : Held p id q turn) :
    q.stopping = p.stopping := by
  cases hd <;> rfl

theorem finish_stopping (p : Pool τ) (id : Nat) (conclusion : Conclusion) :
    (p.finish id conclusion).1.stopping = p.stopping := by
  by_cases hc : conclusion = .unwound
  · rw [hc, finish_unwound]
    rfl
  · rw [(finish_held p id hc).stopping, record_stopping]

theorem later_record (p : Pool τ) (conclusion : Conclusion) :
    p.Later (p.record conclusion) := by
  cases conclusion <;> exact ⟨rfl, rfl, rfl, id⟩

theorem later_finish (p : Pool τ) (id : Nat) (conclusion : Conclusion) :
    p.Later (p.finish id conclusion).1 := by
  by_cases hc : conclusion = .unwound
  · rw [hc, finish_unwound]
    exact ⟨rfl, rfl, rfl, fun h => h⟩
  · exact (later_record p conclusion).trans (finish_held p id hc).later

theorem later_beginDrain {p q : Pool τ} {queued : Option Nat}
    (h : p.beginDrain = some (q, queued)) : p.Later q := by
  rw [eq_of_beginDrain h]
  exact ⟨rfl, rfl, rfl, fun _ => rfl⟩

theorem later_takeQueued (p : Pool τ) : p.Later p.takeQueued.1 := ⟨rfl, rfl, rfl, fun _ => rfl⟩

theorem later_confirmStopped (p : Pool τ) : p.Later p.confirmStopped.1 := by
  rw [confirmStopped_fst]
  exact ⟨rfl, rfl, rfl, fun h => h⟩

end Pool
end TaskEngine
