import TaskEngine.Proofs.Pool.Shutdown

/-! While a pool runs, every worker it has hired is still there, has retired or was lost. In
a stopping pool nobody waits once all calls have woken the workers. -/

namespace TaskEngine

namespace Pool

variable {τ : Type} {p q : Pool τ} {id : Nat} {turn : Turn τ}

theorem submit_hires {task : τ} (h : p.submitWith true task = (q, .ok ())) :
    q.active = p.active + (if p.idle < p.queue.size + 1 ∧ p.active < p.max then 1 else 0) ∧
      q.tally.spawnedWorkers = p.tally.spawnedWorkers +
        (if p.idle < p.queue.size + 1 ∧ p.active < p.max then 1 else 0) := by
  obtain ⟨_, queue, hi, _, rfl⟩ := eq_of_submitWith_ok h
  have hsize : queue.size = p.queue.size + 1 := by simp [BoundedQueue.size, hi]
  have hwants : ({ p with queue }.countSubmitted).wantsWorker =
      decide (p.idle < p.queue.size + 1 ∧ p.active < p.max) := by
    rw [← hsize]
    rfl
  simp only [if_true, grow, hwants]
  split <;> split <;> simp_all [hire, countSubmitted]

theorem submit_roster {spawns : Bool} {task : τ} (h : p.submitWith spawns task = (q, .ok ())) :
    q.active + p.tally.spawnedWorkers = p.active + q.tally.spawnedWorkers ∧
      q.tally.retiredWorkers = p.tally.retiredWorkers := by
  obtain ⟨_, queue, _, _, rfl⟩ := eq_of_submitWith_ok h
  cases spawns with
  | false => exact ⟨rfl, rfl⟩
  | true =>
    simp only [if_true, grow]
    split
    · refine ⟨?_, rfl⟩
      simp only [hire, countSubmitted]
      omega
    · exact ⟨rfl, rfl⟩

@[simp] theorem record_spawned (p : Pool τ) (conclusion : Conclusion) :
    (p.record conclusion).tally.spawnedWorkers = p.tally.spawnedWorkers := by
  cases conclusion <;> rfl

@[simp] theorem record_retired (p : Pool τ) (conclusion : Conclusion) :
    (p.record conclusion).tally.retiredWorkers = p.tally.retiredWorkers := by
  cases conclusion <;> rfl

theorem Held.spawned (hd : Held p id q turn) :
    q.tally.spawnedWorkers = p.tally.spawnedWorkers := by
  cases hd <;> rfl

theorem Held.retired (hd : Held p id q turn) (hs : q.stopping = false) :
    q.active + q.tally.retiredWorkers = p.active + p.tally.retiredWorkers := by
  have hstopping := hd.stopping
  cases hd with
  | run | wait => rfl
  | exit hq hst => simp [hs, hst] at hstopping
  | retire hq hst hc =>
    simp only [dismiss, withoutWorker, countRetired] at hc ⊢
    omega

theorem AtLock.held_waiting (h : p.AtLock id) (hd : Held p id q turn) (hs : p.stopping = true) :
    q.waiting = headcount WorkerPhase.isWaiting (p.others id) := by
  cases hd with
  | @run task queue hq => exact h.headcount_setPhase WorkerPhase.isWaiting (.executing task)
  | wait hq hst => simp [hs] at hst
  | exit | retire => rfl

theorem others_waiting_le (p : Pool τ) (id : Nat) :
    headcount WorkerPhase.isWaiting (p.others id) ≤ p.waiting :=
  List.filter_sublist.countP_le

end Pool

def ShutdownCall.WillAlert (call : ShutdownCall) : Prop :=
  call.stage = .dropping ∨ call.stage = .alerting

theorem Execution.conclusion_of_completed {e : Execution} {task : PoolTask}
    (h : task ∈ e.completed) : e.task = task ∧ e.conclusion = .completed := by
  unfold Execution.completed at h
  split at h
  · next hc => exact ⟨(List.mem_singleton.mp h).symm, hc⟩
  · exact nomatch h

theorem Execution.conclusion_of_panicked {e : Execution} {task : PoolTask}
    (h : task ∈ e.panicked) : e.task = task ∧ ∃ error, e.conclusion = .panicked error := by
  unfold Execution.panicked at h
  split at h
  · next error hc => exact ⟨(List.mem_singleton.mp h).symm, error, hc⟩
  · exact nomatch h

namespace Session

open Pool

variable {c : PoolConfig} {s s' : Session} {d : Deed}

def Hired (s : Session) : Prop :=
  s.pool.stopping = false →
    s.pool.active + s.pool.tally.retiredWorkers + s.lost.length = s.pool.tally.spawnedWorkers

theorem Sound.step_hired (h : s.Sound c) (hh : s.Hired) (st : Step s d s') : s'.Hired := by
  have hp := h.consistent
  unfold Hired at hh ⊢
  cases st with
  | refuse hs =>
    obtain rfl := eq_of_submitWith_error hs
    exact hh
  | accept hs =>
    intro _
    have := hh (eq_of_submitWith_ok hs).1
    obtain ⟨hroster, hretired⟩ := submit_roster hs
    simp only [hretired]
    omega
  | turn hw ht =>
    intro hs
    have hheld := turn_held ht
    have hsum := hheld.retired hs
    have := hh (hheld.stopping.symm.trans hs)
    simp only [roused_active, roused_tally] at hsum
    simp only [hheld.spawned, roused_tally]
    omega
  | @finish id e hw he =>
    intro hs
    rw [finish_stopping] at hs
    have hsum := hh hs
    by_cases hu : e.conclusion = .unwound
    · have hlive := List.length_pos_of_mem hw
      have hactive := hp.active_eq
      simp only [hu, finish_unwound, Execution.lost, List.length_append, List.length_singleton]
      simp only [dismiss, withoutWorker]
      omega
    · have hheld := finish_held s.pool id hu
      have hretired := hheld.retired (by rw [finish_stopping, hs])
      simp only [record_active, record_retired] at hretired
      simp only [hheld.spawned, record_spawned, Execution.lost_eq_nil hu, List.append_nil]
      omega
  | shutdown ho hb =>
    rw [eq_of_beginDrain hb]
    exact fun hs => absurd hs.symm Bool.false_ne_true
  | shutdownNow => exact fun hs => absurd hs.symm Bool.false_ne_true
  | confirm =>
    rw [confirmStopped_fst]
    exact hh
  | _ => exact hh

theorem Reachable.hired (hc : c.validate = .ok ()) (h : Reachable c s) : s.Hired := by
  induction h with
  | start => exact fun _ => by simp [show (Session.start c).lost = [] from rfl]
  | next h st ih => exact (h.sound hc).step_hired ih st

/-- In a stopping pool somebody is about to wake all waiting workers, or nobody waits. -/
def Summoned (s : Session) : Prop :=
  s.pool.stopping = true → (∃ call ∈ s.calls, call.WillAlert) ∨ s.pool.waiting = 0

theorem exists_of_replace {P : ShutdownCall → Prop} {calls before after : List ShutdownCall}
    {call call' : ShutdownCall} (hc : calls = before ++ call :: after) (h : ∃ x ∈ calls, P x)
    (hp : P call → P call') : ∃ x ∈ before ++ call' :: after, P x := by
  subst hc
  obtain ⟨x, hx, hpx⟩ := h
  rcases List.mem_append.mp hx with hx | hx
  · exact ⟨x, List.mem_append_left _ hx, hpx⟩
  · rcases List.mem_cons.mp hx with rfl | hx
    · exact ⟨call', List.mem_append_right _ List.mem_cons_self, hp hpx⟩
    · exact ⟨x, List.mem_append_right _ (List.mem_cons_of_mem _ hx), hpx⟩

theorem Sound.step_summoned (h : s.Sound c) (hs : s.Summoned) (st : Step s d s') :
    s'.Summoned := by
  have hp := h.consistent
  unfold Summoned at hs ⊢
  -- a worker that waits is woken, or one that does not gets the lock
  have hheld {p q : Pool PoolTask} {id : Nat} {turn : Turn PoolTask} (hl : p.AtLock id)
      (hd : Held p id q turn) (hst : p.stopping = s.pool.stopping)
      (ho : p.others id = s.pool.others id) :
      q.stopping = true → (∃ call ∈ s.calls, call.WillAlert) ∨ q.waiting = 0 := by
    intro hq
    rw [hd.stopping] at hq
    refine (hs (hst ▸ hq)).imp_right fun hnone => ?_
    have hle := others_waiting_le s.pool id
    rw [hl.held_waiting hd hq, ho]
    omega
  have hwake {id : Nat} {timed : Bool} (hw : ⟨id, .waiting timed⟩ ∈ s.pool.crew) :
      s.pool.stopping = true → ∃ call ∈ s.calls, call.WillAlert := by
    intro hst
    refine (hs hst).resolve_right fun hnone => ?_
    exact List.countP_eq_zero.mp hnone _ hw rfl
  cases st with
  | refuse hs' =>
    obtain rfl := eq_of_submitWith_error hs'
    exact hs
  | accept hs' =>
    intro hst
    rw [submitWith_stopping hs'] at hst
    simp [(eq_of_submitWith_ok hs').1] at hst
  | notify hn hw => exact fun hst => .inl (hwake hw hst)
  | stir hw => exact fun hst => .inl (hwake hw hst)
  | timeOut hw => exact fun hst => .inl (hwake hw hst)
  | turn hw ht => exact hheld (hp.atLock_turn hw ht) (turn_held ht) rfl rfl
  | @finish id e hw he =>
    by_cases hu : e.conclusion = .unwound
    · simp only [hu, finish_unwound]
      intro hst
      refine (hs hst).imp_right fun hnone => ?_
      exact Nat.le_zero.mp (hnone ▸ others_waiting_le s.pool id)
    · exact hheld ((hp.atLock_executing hw).record _) (finish_held _ _ hu)
        (record_stopping _ _) (record_others _ _ _)
  | shutdownStopped ho hb =>
    exact fun hst => (hs hst).imp_left fun ⟨x, hx, hw⟩ => ⟨x, List.mem_append_left _ hx, hw⟩
  | shutdown =>
    exact fun _ => .inl ⟨_, List.mem_append_right _ (List.mem_singleton_self _), .inr rfl⟩
  | shutdownNow =>
    exact fun _ => .inl ⟨_, List.mem_append_right _ (List.mem_singleton_self _), .inl rfl⟩
  | dropTask hcall hdropping =>
    exact fun hst => (hs hst).imp_left fun hex =>
      exists_of_replace hcall hex fun _ => .inl hdropping
  | countDropped hcall =>
    exact fun hst => (hs hst).imp_left fun hex => exists_of_replace hcall hex fun _ => .inr rfl
  | alert => exact fun _ => .inr (headcount_notified _).1
  | skip hcall hdeciding | join hcall hdeciding =>
    exact fun hst => (hs hst).imp_left fun hex =>
      exists_of_replace hcall hex fun hw => by simp [ShutdownCall.WillAlert, hdeciding] at hw
  | confirm hcall hwaiting =>
    rw [confirmStopped_fst]
    exact fun hst => (hs hst).imp_left fun hex =>
      exists_of_replace hcall hex fun hw => by simp [ShutdownCall.WillAlert, hwaiting] at hw
  | _ => exact hs

theorem Reachable.summoned (hc : c.validate = .ok ()) (h : Reachable c s) : s.Summoned := by
  induction h with
  | start => exact fun hst => by simp at hst
  | next h st ih => exact (h.sound hc).step_summoned ih st

/-- A counted task has been executed, and is counted as its execution says. -/
structure Concluded (s : Session) : Prop where
  completed : ∀ task ∈ s.completed, ∃ e ∈ s.executions, e.task = task ∧ e.conclusion = .completed
  panicked : ∀ task ∈ s.panicked, ∃ e ∈ s.executions, e.task = task ∧
    ∃ error, e.conclusion = .panicked error

theorem Concluded.step (h : s.Concluded) (st : Step s d s') : s'.Concluded := by
  cases st with
  | endTask =>
    constructor
    · intro task ht
      obtain ⟨e, he, hc⟩ := h.completed task ht
      exact ⟨e, List.mem_append_left _ he, hc⟩
    · intro task ht
      obtain ⟨e, he, hc⟩ := h.panicked task ht
      exact ⟨e, List.mem_append_left _ he, hc⟩
  | @finish id e hw he =>
    constructor
    · intro task ht
      rcases List.mem_append.mp ht with ht | ht
      · exact h.completed task ht
      · exact ⟨e, he, Execution.conclusion_of_completed ht⟩
    · intro task ht
      rcases List.mem_append.mp ht with ht | ht
      · exact h.panicked task ht
      · exact ⟨e, he, Execution.conclusion_of_panicked ht⟩
  | _ => exact { h with }

theorem Reachable.concluded (h : Reachable c s) : s.Concluded := by
  induction h with
  | start => exact ⟨nofun, nofun⟩
  | next _ st ih => exact ih.step st

end Session
end TaskEngine
