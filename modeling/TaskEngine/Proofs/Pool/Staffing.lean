import TaskEngine.Proofs.Pool.Sound

/-! A session keeps enough workers for its queued tasks: notifications and workers on their
way to the lock make up for them, the pool grows while it has room, and no worker of the
core leaves while a task is queued. Workers that a panic has killed are counted as if they
were still there. -/

namespace TaskEngine
namespace Pool

variable {τ : Type} {p q : Pool τ} {id : Nat} {turn : Turn τ}

theorem wake_counts {timed : Bool} (h : p.Consistent) (hw : ⟨id, .waiting timed⟩ ∈ p.crew)
    (timedOut : Bool) :
    (p.setPhase id (.woken timedOut)).woken = p.woken + 1 ∧
      (p.setPhase id (.woken timedOut)).starting = p.starting := by
  have hp := Pool.crew_perm h.ids_nodup hw
  have hc := Pool.setPhase_perm h.ids_nodup hw (.woken timedOut)
  constructor
  · simp [woken, headcount_perm _ hp, headcount_perm _ hc, WorkerPhase.isWoken]
  · simp [starting, headcount_perm _ hp, headcount_perm _ hc, WorkerPhase.isStarting]

theorem turn_counts {w : Worker τ} {r : Pool τ × Turn τ} (h : p.Consistent) (hw : w ∈ p.crew)
    (ht : p.turn w = some r) :
    (p.roused w).idle = p.idle ∧ headcount WorkerPhase.isWoken (p.others w.id) = p.woken ∧
        headcount WorkerPhase.isStarting (p.others w.id) + 1 = p.starting ∨
      (p.roused w).idle + 1 = p.idle ∧
        headcount WorkerPhase.isWoken (p.others w.id) + 1 = p.woken ∧
        headcount WorkerPhase.isStarting (p.others w.id) = p.starting := by
  have hp := Pool.crew_perm h.ids_nodup hw
  have hidle := h.idle_eq
  rcases phase_of_turn ht with hs | ⟨timedOut, hs⟩
  · left
    simp [roused, woken, starting, headcount_perm _ hp, hs, WorkerPhase.isWoken,
      WorkerPhase.isStarting]
  · right
    simp [roused, woken, starting, headcount_perm _ hp, hs, WorkerPhase.isWoken,
      WorkerPhase.isStarting] at hidle ⊢
    omega

theorem executing_counts {task : τ} (h : p.Consistent) (hw : ⟨id, .executing task⟩ ∈ p.crew) :
    headcount WorkerPhase.isWoken (p.others id) = p.woken ∧
      headcount WorkerPhase.isStarting (p.others id) = p.starting := by
  have hp := Pool.crew_perm h.ids_nodup hw
  constructor
  · simp [woken, headcount_perm _ hp, WorkerPhase.isWoken]
  · simp [starting, headcount_perm _ hp, WorkerPhase.isStarting]

theorem submit_counts {spawns : Bool} {task : τ} (h : p.submitWith spawns task = (q, .ok ())) :
    q.queue.size = p.queue.size + 1 ∧ q.idle = p.idle ∧ q.woken = p.woken ∧
      p.active ≤ q.active := by
  obtain ⟨_, queue, hi, _, rfl⟩ := eq_of_submitWith_ok h
  have hsize : queue.size = p.queue.size + 1 := by simp [BoundedQueue.size, hi]
  cases spawns with
  | false => exact ⟨hsize, rfl, rfl, Nat.le_refl _⟩
  | true =>
    simp only [if_true, grow]
    split
    · exact ⟨hsize, rfl, by simp [hire, countSubmitted, woken, WorkerPhase.isWoken],
        Nat.le_succ _⟩
    · exact ⟨hsize, rfl, rfl, Nat.le_refl _⟩

theorem submit_supply {task : τ} (h : p.submitWith true task = (q, .ok ())) {n : Nat}
    (hs : p.max ≤ p.active + n ∨ p.queue.size ≤ p.idle + p.starting) :
    q.max ≤ q.active + n ∨ q.queue.size ≤ q.idle + q.starting := by
  obtain ⟨_, queue, hi, _, rfl⟩ := eq_of_submitWith_ok h
  have hsize : queue.size = p.queue.size + 1 := by simp [BoundedQueue.size, hi]
  simp only [if_true, grow]
  split
  · next hw =>
    have hw : p.idle < queue.size ∧ p.active < p.max := of_decide_eq_true hw
    have hstarting : ({ p with queue }.countSubmitted.hire).starting = p.starting + 1 := by
      simp [hire, countSubmitted, starting, WorkerPhase.isStarting]
    rw [hstarting]
    simp only [hire, countSubmitted]
    omega
  · next hw =>
    have hw : ¬(p.idle < queue.size ∧ p.active < p.max) := fun h => hw (decide_eq_true h)
    show p.max ≤ p.active + n ∨ queue.size ≤ p.idle + p.starting
    omega

theorem size_of_pop {task : τ} {queue queue' : BoundedQueue τ}
    (h : queue.pop = some (task, queue')) : queue.size = queue'.size + 1 := by
  simp [BoundedQueue.size, (BoundedQueue.items_of_pop h).1]

/-- Before the hold the worker itself may stand for one queued task. -/
theorem AtLock.held_alarm (h : p.AtLock id) (hd : Held p id q turn) {n : Nat}
    (ha : min p.queue.size (p.idle + 1) ≤ headcount WorkerPhase.isWoken (p.others id) + n + 1) :
    min q.queue.size q.idle ≤ q.woken + n := by
  cases hd with
  | @run task queue hq =>
    have hsize := size_of_pop hq
    have hwoken : ({ p with queue }.setPhase id (.executing task)).woken =
        headcount WorkerPhase.isWoken (p.others id) :=
      h.headcount_setPhase WorkerPhase.isWoken (.executing task)
    rw [hwoken]
    show min queue.size p.idle ≤ _
    omega
  | wait hq => simp [beginWait, BoundedQueue.size, hq]
  | exit hq => simp [dismiss, withoutWorker, BoundedQueue.size, hq]
  | retire hq => simp [dismiss, withoutWorker, countRetired, BoundedQueue.size, hq]

theorem AtLock.held_supply (h : p.AtLock id) (hd : Held p id q turn) {n : Nat}
    (hs : p.max ≤ p.active + n ∨
      p.queue.size ≤ p.idle + headcount WorkerPhase.isStarting (p.others id) + 1) :
    q.max ≤ q.active + n ∨ q.queue.size ≤ q.idle + q.starting := by
  cases hd with
  | @run task queue hq =>
    have hsize := size_of_pop hq
    have hstarting : ({ p with queue }.setPhase id (.executing task)).starting =
        headcount WorkerPhase.isStarting (p.others id) :=
      h.headcount_setPhase WorkerPhase.isStarting (.executing task)
    rw [hstarting]
    show p.max ≤ p.active + n ∨ queue.size ≤ p.idle + _
    omega
  | wait hq => exact .inr (by simp [beginWait, BoundedQueue.size, hq])
  | exit hq => exact .inr (by simp [dismiss, withoutWorker, BoundedQueue.size, hq])
  | retire hq =>
    exact .inr (by simp [dismiss, withoutWorker, countRetired, BoundedQueue.size, hq])

theorem Held.retained (hd : Held p id q turn) {n : Nat}
    (hr : p.stopping = false ∨ p.queue.items ≠ [] → p.core ≤ p.active + n) :
    q.stopping = false ∨ q.queue.items ≠ [] → q.core ≤ q.active + n := by
  intro hq'
  cases hd with
  | run hq =>
    refine hr (hq'.imp (fun h => h) fun _ => ?_)
    rw [(BoundedQueue.items_of_pop hq).1]
    exact List.cons_ne_nil _ _
  | wait => exact hr hq'
  | exit hq hs =>
    -- a worker that leaves a stopping pool leaves no task behind
    exfalso
    simp [dismiss, withoutWorker, hs, hq] at hq'
  | retire hq hs hc =>
    simp only [dismiss, withoutWorker, countRetired] at hc ⊢
    omega

end Pool

namespace Session

open Pool

variable {c : PoolConfig} {s s' : Session} {d : Deed}

/-- Notifications and woken workers make up for the queued tasks, or for the idle workers where
those are fewer. -/
def Alarmed (s : Session) : Prop :=
  min s.pool.queue.size s.pool.idle ≤ s.pool.woken + s.notices

theorem Sound.step_alarmed (h : s.Sound c) (ha : s.Alarmed) (st : Step s d s') :
    s'.Alarmed := by
  have hp := h.consistent
  unfold Alarmed at ha ⊢
  cases st with
  | refuse hs =>
    obtain rfl := eq_of_submitWith_error hs
    exact ha
  | accept hs =>
    obtain ⟨hsize, hidle, hwoken, _⟩ := submit_counts hs
    simp only [hsize, hidle, hwoken]
    omega
  | notify hn hw =>
    have hwoken := (wake_counts hp hw false).1
    simp only [hwoken]
    simp only [setPhase]
    omega
  | notifyNobody hn hw =>
    -- the notification is lost, but all idle workers are on their way
    have := hp.idle_eq
    simp only at ha ⊢
    omega
  | stir hw =>
    have hwoken := (wake_counts hp hw false).1
    simp only [hwoken]
    simp only [setPhase]
    omega
  | timeOut hw =>
    have hwoken := (wake_counts hp hw true).1
    simp only [timeOut, hwoken]
    simp only [setPhase]
    omega
  | turn hw ht =>
    refine (hp.atLock_turn hw ht).held_alarm (turn_held ht) ?_
    have := turn_counts hp hw ht
    simp only [roused_queue, roused_others]
    omega
  | @finish id e hw he =>
    obtain ⟨hwoken, _⟩ := executing_counts hp hw
    by_cases hu : e.conclusion = .unwound
    · simp only [hu, finish_unwound]
      show min s.pool.queue.size s.pool.idle ≤
        headcount WorkerPhase.isWoken (s.pool.others id) + s.notices
      omega
    · refine ((hp.atLock_executing hw).record _).held_alarm (finish_held _ _ hu) ?_
      simp only [record_queue, record_idle, record_others]
      omega
  | endTask => exact ha
  | shutdownStopped => exact ha
  | shutdown ho hb =>
    rw [eq_of_beginDrain hb]
    exact ha
  | shutdownNow => simp [takeQueued, BoundedQueue.drain, BoundedQueue.size]
  | dropTask => exact ha
  | countDropped => exact ha
  | alert =>
    obtain ⟨_, hwoken, _⟩ := headcount_notified s.pool.crew
    simp only [Pool.notifyAll, woken, hwoken] at ha ⊢
    omega
  | skip | join => exact ha
  | confirm hc hs hz =>
    rw [confirmStopped_fst]
    exact ha
  | read | dropHandle => exact ha

/-- Idle and new workers are enough for the queued tasks, or the pool has all workers it may
have, but for those that were lost. -/
def Supplied (s : Session) : Prop :=
  s.pool.max ≤ s.pool.active + s.lost.length ∨
    s.pool.queue.size ≤ s.pool.idle + s.pool.starting

theorem Sound.step_supplied (h : s.Sound c) (hs : s.Supplied) (st : Step s d s')
    (hf : s'.failedSpawns = 0) : s'.Supplied := by
  have hp := h.consistent
  unfold Supplied at hs ⊢
  cases st with
  | refuse hs' =>
    obtain rfl := eq_of_submitWith_error hs'
    exact hs
  | @accept _ spawns _ hs' =>
    obtain rfl : spawns = true := by
      by_contra hn
      simp [hn] at hf
    exact submit_supply hs' hs
  | notify hn hw =>
    simp only [(wake_counts hp hw false).2]
    exact hs
  | notifyNobody => exact hs
  | stir hw =>
    simp only [(wake_counts hp hw false).2]
    exact hs
  | timeOut hw =>
    simp only [timeOut, (wake_counts hp hw true).2]
    exact hs
  | turn hw ht =>
    refine (hp.atLock_turn hw ht).held_supply (turn_held ht) ?_
    have := turn_counts hp hw ht
    simp only [roused_queue, roused_others, roused_active, roused_max]
    omega
  | @finish id e hw he =>
    obtain ⟨_, hstarting⟩ := executing_counts hp hw
    by_cases hu : e.conclusion = .unwound
    · have hlive := List.length_pos_of_mem hw
      have hactive := hp.active_eq
      simp only [hu, finish_unwound, Execution.lost, List.length_append, List.length_singleton]
      show s.pool.max ≤ s.pool.active - 1 + _ ∨ s.pool.queue.size ≤
        s.pool.idle + headcount WorkerPhase.isStarting (s.pool.others id)
      omega
    · simp only [Execution.lost_eq_nil hu, List.append_nil]
      refine ((hp.atLock_executing hw).record _).held_supply (finish_held _ _ hu) ?_
      simp only [record_queue, record_idle, record_others, record_active, record_max]
      omega
  | endTask => exact hs
  | shutdownStopped => exact hs
  | shutdown ho hb =>
    rw [eq_of_beginDrain hb]
    exact hs
  | shutdownNow => simp [takeQueued, BoundedQueue.drain, BoundedQueue.size]
  | dropTask => exact hs
  | countDropped => exact hs
  | alert =>
    obtain ⟨_, _, hstarting⟩ := headcount_notified s.pool.crew
    simp only [Pool.notifyAll, starting, hstarting] at hs ⊢
    exact hs
  | skip | join => exact hs
  | confirm hc hs' hz =>
    rw [confirmStopped_fst]
    exact hs
  | read | dropHandle => exact hs

/-- The core is there while the pool runs and while tasks are queued, but for the workers that
were lost. -/
def Retained (s : Session) : Prop :=
  s.pool.stopping = false ∨ s.pool.queue.items ≠ [] →
    s.pool.core ≤ s.pool.active + s.lost.length

theorem Sound.step_retained (h : s.Sound c) (hr : s.Retained) (st : Step s d s') :
    s'.Retained := by
  have hp := h.consistent
  unfold Retained at hr ⊢
  cases st with
  | refuse hs =>
    obtain rfl := eq_of_submitWith_error hs
    exact hr
  | accept hs =>
    obtain ⟨_, _, _, hactive⟩ := submit_counts hs
    have := hr (.inl (eq_of_submitWith_ok hs).1)
    intro _
    simp only [(later_submitWith_ok hs).core_eq]
    omega
  | notify | notifyNobody | stir | timeOut => exact hr
  | turn hw ht =>
    refine (turn_held ht).retained ?_
    simpa only [roused_queue, roused_stopping, roused_core, roused_active] using hr
  | @finish id e hw he =>
    by_cases hu : e.conclusion = .unwound
    · have hlive := List.length_pos_of_mem hw
      have := hp.active_eq
      intro hq
      have hc := hr (by simpa [hu, finish_unwound, dismiss, withoutWorker] using hq)
      simp only [hu, finish_unwound, dismiss, withoutWorker, Execution.lost, List.length_append,
        List.length_singleton]
      omega
    · simp only [Execution.lost_eq_nil hu, List.append_nil]
      refine (finish_held _ _ hu).retained ?_
      simpa only [record_queue, record_stopping, record_core, record_active] using hr
  | endTask => exact hr
  | shutdownStopped => exact hr
  | shutdown ho hb =>
    rw [eq_of_beginDrain hb]
    exact fun hq => hr (.inr (by simpa using hq))
  | shutdownNow => simp [takeQueued, BoundedQueue.drain]
  | dropTask => exact hr
  | countDropped => exact hr
  | alert => exact hr
  | skip | join => exact hr
  | confirm hc hs' hz =>
    rw [confirmStopped_fst]
    exact hr
  | read | dropHandle => exact hr

theorem Reachable.alarmed (hc : c.validate = .ok ()) (h : Reachable c s) : s.Alarmed := by
  induction h with
  | start => simp [Alarmed, BoundedQueue.size]
  | next h st ih => exact (h.sound hc).step_alarmed ih st

theorem Step.failedSpawns_le (st : Step s d s') : s.failedSpawns ≤ s'.failedSpawns := by
  cases st with
  | accept => exact Nat.le_add_right _ _
  | _ => exact Nat.le_refl _

theorem Reachable.supplied (hc : c.validate = .ok ()) (h : Reachable c s)
    (hf : s.failedSpawns = 0) : s.Supplied := by
  induction h with
  | start => exact .inr (by simp [BoundedQueue.size])
  | next h st ih =>
    have hf' := Nat.le_zero.mp (hf ▸ st.failedSpawns_le)
    exact (h.sound hc).step_supplied (ih hf') st hf

theorem Reachable.retained (hc : c.validate = .ok ()) (h : Reachable c s) : s.Retained := by
  induction h with
  | start => exact fun _ => by simp
  | next h st ih => exact (h.sound hc).step_retained ih st

theorem Reachable.active_pos (hc : c.validate = .ok ()) (h : Reachable c s)
    (hf : s.failedSpawns = 0) (hl : s.lost.length < c.maxThreads.toNat)
    (hq : s.pool.queue.items ≠ []) : 1 ≤ s.pool.active := by
  have hp := (h.sound hc).consistent
  have hsupply := h.supplied hc hf
  have hsize : 0 < s.pool.queue.size := List.length_pos_iff.mpr hq
  have hlength := s.pool.crew_length
  have hactive := hp.active_eq
  have hidle := hp.idle_eq
  unfold Supplied at hsupply
  rw [(h.sound hc).max_eq] at hsupply
  omega

/-- Even if no thread could be created, it takes the loss of the core to leave a queued task
without a worker. -/
theorem Reachable.active_pos_of_core (hc : c.validate = .ok ()) (h : Reachable c s)
    (hl : s.lost.length < c.coreThreads.toNat) (hq : s.pool.queue.items ≠ []) :
    1 ≤ s.pool.active := by
  have hcore := h.retained hc (.inr hq)
  rw [(h.sound hc).core_eq] at hcore
  omega

theorem exists_executing {p : Pool PoolTask} (hp : p.Consistent) (hi : p.idle = 0)
    (hs : p.starting = 0) : ∀ w ∈ p.crew, ∃ task, w.phase = .executing task := by
  intro w hw
  have hidle := hp.idle_eq
  have hnone : ∀ kind, headcount kind p.crew = 0 → kind w.phase = false := by
    intro kind hk
    simpa using List.countP_eq_zero.mp hk w hw
  have h₁ := hnone _ hs
  have h₂ := hnone WorkerPhase.isWaiting (by unfold waiting at hidle; omega)
  have h₃ := hnone WorkerPhase.isWoken (by unfold woken at hidle; omega)
  cases hph : w.phase with
  | starting => simp [hph, WorkerPhase.isStarting] at h₁
  | waiting timed => simp [hph, WorkerPhase.isWaiting] at h₂
  | woken timedOut => simp [hph, WorkerPhase.isWoken] at h₃
  | executing task => exact ⟨task, rfl⟩

/-- Every queued task has something under way for it, unless the pool has all its workers and
each idle one is on its way. So a task stays queued with nothing under way only while the most
workers that the pool may have are all executing tasks. -/
theorem work_conserved (hc : c.validate = .ok ()) (h : Reachable c s) (hl : s.lost = [])
    (hf : s.failedSpawns = 0) :
    (s.pool.queue.size ≤ s.inFlight ∨
      s.pool.active = c.maxThreads.toNat ∧ s.pool.idle ≤ s.inFlight) ∧
    (s.inFlight = 0 → s.pool.queue.items ≠ [] →
      s.pool.active = c.maxThreads.toNat ∧ s.pool.idle = 0 ∧
        ∀ w ∈ s.pool.crew, ∃ task, w.phase = .executing task) := by
  have hp := (h.sound hc).consistent
  have hmax := (h.sound hc).max_eq
  have halarm : min s.pool.queue.size s.pool.idle ≤ s.pool.woken + s.notices := h.alarmed hc
  have hactive := hp.active_le
  have hsupply := h.supplied hc hf
  simp only [Supplied, hl, List.length_nil] at hsupply
  have hall : s.pool.queue.size ≤ s.inFlight ∨
      s.pool.active = c.maxThreads.toNat ∧ s.pool.idle ≤ s.inFlight := by
    unfold inFlight
    omega
  refine ⟨hall, fun hz hq => ?_⟩
  have hsize : 0 < s.pool.queue.size := List.length_pos_iff.mpr hq
  have hfull : s.pool.active = c.maxThreads.toNat ∧ s.pool.idle = 0 := by omega
  have hstarting : s.pool.starting = 0 := by unfold inFlight at hz; omega
  exact ⟨hfull.1, hfull.2, exists_executing hp hfull.2 hstarting⟩

theorem work_conserved_solo : ∃ s, Reachable solo s ∧ s.inFlight = 0 ∧
    s.pool.queue.items ≠ [] ∧ s.pool.active = solo.maxThreads.toNat ∧ s.pool.idle = 0 := by
  have h₁ := Reachable.start.next (c := solo) (d := .submit [] true) (.accept rfl)
  have h₂ := h₁.next (.notifyNobody rfl rfl)
  have h₃ := h₂.next (.turn (List.Mem.head _) rfl)
  have h₄ := h₃.next (d := .submit [] true) (.accept rfl)
  have h₅ := h₄.next (.notifyNobody rfl rfl)
  have hqueue := List.cons_ne_nil (⟨[], 1⟩ : PoolTask) []
  obtain ⟨_, hall⟩ := work_conserved rfl h₅ rfl rfl
  obtain ⟨hactive, hidle, _⟩ := hall rfl hqueue
  exact ⟨_, h₅, rfl, hqueue, hactive, hidle⟩

end Session
end TaskEngine
